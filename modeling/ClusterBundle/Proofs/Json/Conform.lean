import ClusterBundle.Cluster.Objects
import ClusterBundle.Json.Reader

/-!
What is left of a value that was held against a shape.

A record keeps the members that it knows, and a map keeps all of its own. So what a path through a
record to a text leads to is the same in the value that was held against it.
-/

namespace ClusterBundle.Json

variable {shape : Shape} {shapes : List (String × Shape)} {members : List (String × Value)}
  {conformed : Members} {v w : Value} {key name : String}

theorem conform_text (h : conform .text v = .ok w) : w = v := by
  cases v <;> simp_all [conform, Shape.checkText, Shape.checkNumber, Except.map]

/-- A map of texts is kept as it is. -/
theorem conformMembers_text (h : conformMembers .text members = .ok conformed) :
    conformed = members := by
  induction members generalizing conformed with
  | nil =>
      cases h
      rfl
  | cons entry rest ih =>
      obtain ⟨key, v⟩ := entry
      unfold conformMembers at h
      cases hv : conform .text v with
      | error problem => simp [hv, bind, Except.bind] at h
      | ok w =>
          cases hrest : conformMembers .text rest with
          | error problem => simp [hv, hrest, bind, Except.bind] at h
          | ok behind =>
              simp only [hv, hrest, bind, Except.bind, pure, Except.pure, Except.ok.injEq] at h
              rw [← h, conform_text hv, ih hrest]

/-- What becomes of the first member of a record. -/
theorem conformRecord_cons {rest : List (String × Value)}
    (h : conformRecord shapes ((name, v) :: rest) = .ok conformed) :
    (shapes.lookup name = none ∧ conformRecord shapes rest = .ok conformed) ∨
      ∃ shape w behind, shapes.lookup name = some shape ∧ conformed = (name, w) :: behind ∧
        conformRecord shapes rest = .ok behind ∧
        ((∃ expected, shape = .only expected) ∨ v = .null ∧ w = .null ∨
          conform shape v = .ok w) := by
  unfold conformRecord at h
  simp only [bind, Except.bind, pure, Except.pure] at h
  split at h
  · rename_i hnone
    exact .inl ⟨hnone, h⟩
  · rename_i expected hknown
    split at h
    · cases h
    split at h
    · rename_i w _ _
      cases hrest : conformRecord shapes rest with
      | error problem => simp [hrest] at h
      | ok behind =>
          simp only [hrest, Except.ok.injEq] at h
          exact .inr ⟨_, w, behind, hknown, h.symm, rfl, .inl ⟨expected, rfl⟩⟩
    · cases h
  · rename_i shape honly hknown
    cases hrest : conformRecord shapes rest with
    | error problem => simp [hrest] at h
    | ok behind =>
        simp only [hrest, Except.ok.injEq] at h
        exact .inr ⟨shape, .null, behind, hknown, h.symm, rfl, .inr (.inl ⟨rfl, rfl⟩)⟩
  · rename_i v _ _ shape honly hknown hnull
    cases hv : conform shape v with
    | error problem => simp [hv] at h
    | ok w =>
        cases hrest : conformRecord shapes rest with
        | error problem => simp [hv, hrest] at h
        | ok behind =>
            simp only [hv, hrest, Except.ok.injEq] at h
            exact .inr ⟨shape, w, behind, hknown, h.symm, rfl, .inr (.inr hv)⟩

/-- A member that a record knows is kept, held against its own shape. -/
theorem lookup_conformRecord (hshape : shapes.lookup key = some shape)
    (honly : ∀ expected, shape ≠ .only expected)
    (h : conformRecord shapes members = .ok conformed) :
    (members.lookup key = none ∧ conformed.lookup key = none) ∨
      (members.lookup key = some .null ∧ conformed.lookup key = some .null) ∨
      ∃ v w, members.lookup key = some v ∧ conformed.lookup key = some w ∧
        conform shape v = .ok w := by
  induction members generalizing conformed with
  | nil =>
      cases h
      exact .inl ⟨rfl, rfl⟩
  | cons entry rest ih =>
      obtain ⟨name, v⟩ := entry
      rcases conformRecord_cons h with
        ⟨hnone, hrest⟩ | ⟨known, w, behind, hknown, rfl, hrest, hv⟩
      · have hother : (key == name) = false := by
          rw [beq_eq_false_iff_ne]
          rintro rfl
          rw [hnone] at hshape
          cases hshape
        rw [List.lookup_cons, hother]
        exact ih hrest
      · rw [List.lookup_cons, List.lookup_cons]
        cases hsame : key == name with
        | false => exact ih hrest
        | true =>
            obtain rfl := eq_of_beq hsame
            rw [hshape] at hknown
            obtain rfl := Option.some.inj hknown
            rcases hv with ⟨expected, heq⟩ | ⟨rfl, rfl⟩ | hv
            · exact absurd heq (honly expected)
            · exact .inr (.inl ⟨rfl, rfl⟩)
            · exact .inr (.inr ⟨v, w, rfl, rfl, hv⟩)

theorem conform_map_text (h : conform (.map .text) v = .ok w) : w = v := by
  cases v with
  | object members =>
      unfold conform at h
      cases hmembers : conformMembers .text members with
      | error problem => simp [hmembers, Except.map] at h
      | ok conformed =>
          simp only [hmembers, Except.map, Except.ok.injEq] at h
          rw [← h, conformMembers_text hmembers]
  | number n => cases n <;> simp [conform, Shape.checkNumber, Except.map] at h
  | null | bool | text | list => simp [conform] at h

/-- A path into a map of texts that a record knows leads to what it led to before. -/
theorem at?_conform {record : String} (hshape : shapes.lookup key = some (.map .text))
    (h : conform (.record record shapes) v = .ok w) (steps : List String) :
    w.at? (key :: steps) = v.at? (key :: steps) := by
  cases v with
  | object members =>
      unfold conform at h
      cases hmembers : conformRecord shapes members with
      | error problem => simp [hmembers, Except.map] at h
      | ok conformed =>
          simp only [hmembers, Except.map, Except.ok.injEq] at h
          rw [← h, Value.at?, Value.at?, Value.step?, Value.step?]
          rcases lookup_conformRecord hshape (by simp) hmembers with
            ⟨hbefore, hafter⟩ | ⟨hbefore, hafter⟩ | ⟨v, w, hbefore, hafter, hv⟩
          · rw [hbefore, hafter]
          · rw [hbefore, hafter]
          · rw [hbefore, hafter, conform_map_text hv]
  | number n => cases n <;> simp [conform, Shape.checkNumber, Except.map] at h
  | null | bool | text | list => simp [conform] at h

end ClusterBundle.Json
