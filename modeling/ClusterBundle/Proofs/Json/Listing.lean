import ClusterBundle.Json.Reader

/-!
What a listing is read as.

`Yields P reader` says that whatever a reader makes of a document satisfies `P`. A reader that can
only fail yields anything, so of all that the reader of listings is made of, only the places that
go on count. They keep nothing but the member `items`: a listing without it is read as an object
without members, and every other one as an object with a list under that key.
-/

namespace ClusterBundle.Json

namespace Reader

variable {α β : Type} {P : α → Prop} {Q : β → Prop} {reader : Reader α} {next : α → Reader β}

/-- Whatever a reader makes of a document is as `P` says. -/
def Yields (P : α → Prop) (reader : Reader α) : Prop :=
  ∀ before a after, reader.run before = .ok (a, after) → P a

namespace Yields

theorem pure {a : α} (h : P a) : Yields P (Pure.pure a) := by
  rintro before b after heq
  cases heq
  exact h

theorem bind (hfirst : Yields P reader) (hnext : ∀ a, P a → Yields Q (next a)) :
    Yields Q (reader >>= next) := by
  intro before b after h
  rw [StateT.run_bind] at h
  cases hrun : reader.run before with
  | error flaw =>
      rw [hrun] at h
      cases h
  | ok found =>
      obtain ⟨a, between⟩ := found
      rw [hrun] at h
      exact hnext a (hfirst before a between hrun) between b after h

/-- Where it does not matter what was read before. -/
theorem behind (hnext : ∀ a, Yields Q (next a)) : Yields Q (reader >>= next) :=
  bind (P := fun _ => True) (fun _ _ _ _ => trivial) fun a _ => hnext a

theorem ite {c : Prop} [Decidable c] {other : Reader α} (h : c → Yields P reader)
    (hother : ¬c → Yields P other) : Yields P (if c then reader else other) := by
  split
  · exact h ‹_›
  · exact hother ‹_›

/-! ### Failing -/

theorem throw (flaw : Flaw) : Yields P (throw flaw : Reader α) := by
  intro before a after h
  cases h

theorem failHere (problem : Problem) : Yields P (failHere problem : Reader α) :=
  behind fun _ => throw _

theorem failNext (problem : Problem) : Yields P (failNext problem : Reader α) :=
  behind fun _ => throw _

theorem failInList (problem : Problem) : Yields P (failInList problem : Reader α) := by
  refine behind fun b => ite (fun _ => behind fun _ => failHere _) fun _ => ?_
  exact ite (fun _ => behind fun _ => behind fun _ => failHere _) fun _ => failHere _

theorem failInObject (problem : Problem) : Yields P (failInObject problem : Reader α) :=
  behind fun _ => ite (fun _ => behind fun _ => failHere _) fun _ => failHere _

theorem failType (expected : String) : Yields P (failType expected : Reader α) := by
  refine behind fun b => ?_
  cases b with
  | none => exact failNext _
  | some b =>
      refine ite (fun _ => behind fun _ => behind fun _ => failHere _) fun _ => ?_
      refine ite (fun _ => behind fun _ => behind fun _ => failHere _) fun _ => ?_
      refine ite (fun _ => behind fun _ => behind fun _ => failHere _) fun _ => ?_
      refine ite (fun _ => behind fun _ => failHere _) fun _ => ?_
      refine ite (fun _ => behind fun _ => behind fun _ => failHere _) fun _ => ?_
      refine ite (fun _ => failHere _) fun _ => ?_
      exact ite (fun _ => failHere _) fun _ => failNext _

/-! ### Brackets -/

theorem enclosed {inner : Option (Shape → Reader Value)}
    {content : (Shape → Reader Value) → Reader α}
    (h : ∀ read, inner = some read → Yields P (content read)) :
    Yields P (enclosed inner content) := by
  cases inner with
  | none => exact failNext _
  | some read => exact behind fun _ => h read rfl

/-- What each member keeps of the members before it, all of them keep. -/
theorem members {member : String → Members → Reader Members} {Kept : Members → Prop}
    (h : ∀ key seen, Kept seen → Yields Kept (member key seen)) :
    ∀ fuel first seen, Kept seen → Yields Kept (members member fuel first seen)
  | 0, _, _, hseen => pure hseen
  | fuel + 1, _, seen, hseen => by
      refine behind fun key => ?_
      cases key with
      | none => exact pure hseen
      | some key =>
          exact (h key seen hseen).bind fun more hmore => members h fuel false more hmore

end Yields

/-! ### Lists and listings -/

/-- A value that is a list. -/
def IsList (v : Value) : Prop := ∃ xs, v = .list xs

theorem yields_listOf (read : Shape → Reader Value) (element : Shape) :
    Yields IsList (listOf read element) :=
  .behind fun _ => .behind fun xs => .behind fun _ => .pure ⟨xs, rfl⟩

theorem yields_list (inner : Option (Shape → Reader Value)) (element : Shape) :
    Yields IsList (valueWith inner (.list element)) := by
  refine .behind fun b => ?_
  cases b with
  | none => exact .failNext _
  | some b =>
      exact .ite (fun _ => .enclosed fun read _ => yields_listOf read element) fun _ => .failType _

theorem yields_value_list (depth : Nat) (element : Shape) :
    Yields IsList (value depth (.list element)) := by
  cases depth <;> exact yields_list _ element

/-- The members that are kept of a listing: the items, if there are any. -/
def KeepsItems (seen : Members) : Prop := seen = [] ∨ ∃ xs, seen = [("items", .list xs)]

theorem KeepsItems.insert {seen : Members} {v : Value} (h : KeepsItems seen) (hv : IsList v) :
    KeepsItems (insert "items" v seen) := by
  obtain ⟨xs, rfl⟩ := hv
  obtain rfl | ⟨ys, rfl⟩ := h
  · exact .inr ⟨xs, rfl⟩
  · refine .inr ⟨xs, ?_⟩
    rw [Json.insert, if_neg (by decide), if_pos rfl]

/-- A listing as it is read. -/
inductive IsListing : Value → Prop where
  | bare : IsListing (.object [])
  | items (xs : List Value) : IsListing (.object [("items", .list xs)])

section

variable {read : Shape → Reader Value} {element : Shape}
  (hread : ∀ element, Yields IsList (read (.list element)))

include hread

theorem yields_listingMember (key : String) (seen : Members) (hseen : KeepsItems seen) :
    Yields KeepsItems (listingMember read element key seen) := by
  have hitems : Yields KeepsItems (do
      colon
      return insert "items" (← read (.list element)) seen) :=
    .behind fun _ => (hread element).bind fun v hv => .pure (hseen.insert hv)
  refine .ite (fun hkey => ?_) fun _ => .behind fun _ => .behind fun _ => .pure hseen
  subst hkey
  exact .ite (fun _ => .behind fun _ => hitems) fun _ => hitems

theorem yields_listingOf : Yields IsListing (listingOf read element) := by
  refine .behind fun _ => ?_
  refine (Yields.members (yields_listingMember hread) _ true [] (.inl rfl)).bind fun found h => ?_
  obtain rfl | ⟨xs, rfl⟩ := h
  · exact .behind fun _ => .pure .bare
  · exact .behind fun _ => .pure (.items xs)

theorem yields_listingOfList : Yields IsListing (listingOfList read element) := by
  refine .behind fun more => .ite (fun _ => ?_) fun _ => .behind fun _ => .pure .bare
  refine (hread element).bind fun v hv => ?_
  obtain ⟨xs, rfl⟩ := hv
  exact .behind fun _ => .pure (.items xs)

end

theorem yields_listing (depth : Nat) (element : Shape) :
    Yields IsListing (value depth (.listing element)) := by
  have hwith : ∀ inner, (∀ read, inner = some read →
      ∀ element, Yields IsList (read (.list element))) →
      Yields IsListing (valueWith inner (.listing element)) := by
    intro inner hinner
    refine .behind fun b => ?_
    cases b with
    | none => exact .failNext _
    | some b =>
        refine .ite (fun _ => .enclosed fun read h => yields_listingOf (hinner read h)) fun _ => ?_
        exact .ite (fun _ => .enclosed fun read h => yields_listingOfList (hinner read h))
          fun _ => .failType _
  cases depth with
  | zero => exact hwith none fun read h => nomatch h
  | succ depth =>
      refine hwith _ fun read h element => ?_
      cases h
      exact yields_value_list depth element

end Reader

/-- A document that is read as a listing has its items in a list, or has none. -/
theorem isListing_of_read {element : Shape} {bytes : Bytes} {listing : Value}
    (h : read (.listing element) bytes = .ok listing) : Reader.IsListing listing := by
  have hdocument : Reader.Yields Reader.IsListing (Reader.document (.listing element)) := by
    refine (Reader.yields_listing Reader.maxDepth element).bind fun v hv => .behind fun b => ?_
    cases b with
    | none => exact .pure hv
    | some b => exact .failNext _
  unfold read at h
  split at h
  · cases h
    exact hdocument _ _ _ ‹_›
  · cases h

end ClusterBundle.Json
