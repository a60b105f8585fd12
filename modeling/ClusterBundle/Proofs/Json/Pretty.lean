import ClusterBundle.Json.Reader
import ClusterBundle.Proofs.Json.Numbers

/-!
A document that is written over several lines is read back as the value it was written from.

Reading keeps the members of an object in order and one for each key, so what comes back is the
value in that form (`Value.sorted`). Doubles are left aside; everything else comes back, if its
integers have 64 bits and its brackets do not nest deeper than a reader goes.
-/

namespace ClusterBundle.Json

mutual

/-- A value with the members of every object in order and one of them for each key. -/
@[simp] def Value.sorted : Value → Value
  | .list items => .list (sortedItems items)
  | .object members => .object (sortedMembers members [])
  | v => v

def sortedItems : List Value → List Value
  | [] => []
  | x :: xs => x.sorted :: sortedItems xs

/-- Members put in their places one after the other, which is the order they are read in. -/
@[simp] def sortedMembers : List (String × Value) → Members → Members
  | [], seen => seen
  | (key, v) :: rest, seen => sortedMembers rest (insert key v.sorted seen)

end

@[simp] theorem sortedItems_eq_map (items : List Value) :
    sortedItems items = items.map Value.sorted := by
  induction items with
  | nil => rfl
  | cons x xs ih => rw [sortedItems, ih, List.map_cons]

/-- Whether a value can be read back: it has no doubles, its integers have 64 bits, and its
brackets nest so deep at most. -/
def Value.Fits : (depth : Nat) → Value → Prop
  | _, .null | _, .bool _ | _, .text _ => True
  | _, .number (.integer n) => Reader.IsWord n
  | _, .number (.double _) => False
  | 0, .list _ | 0, .object _ => False
  | depth + 1, .list items => ∀ x ∈ items, x.Fits depth
  | depth + 1, .object members => ∀ member ∈ members, member.2.Fits depth

namespace Reader

variable {inner : Option (Shape → Reader Value)} {read : Reader Value}
  {bytes blank rest after : Bytes} {b : UInt8} {v : Value} {depth indent fuel : Nat}

theorem isBlank_newline (depth : Nat) : IsBlank (Utf8.spelled (newline depth)) := by
  have hspaces : Utf8.spelled (newline depth) =
      byte '\n' :: List.replicate (2 * depth) (byte ' ') := by
    rw [newline, Utf8.spelled_ascii (by decide)]
    induction 2 * depth with
    | zero => rfl
    | succ n ih =>
        rw [List.replicate_succ, Utf8.spelled_ascii (by decide), List.replicate_succ]
        simp_all
  intro b hb
  rw [hspaces] at hb
  obtain rfl | ⟨-, rfl⟩ := by simpa using hb
  · rfl
  · rfl

theorem spelled_textChars (s : String) :
    Utf8.spelled (textChars s) =
      byte '"' :: (Utf8.spelled (s.toList.flatMap Quoted.jsonChar) ++ [byte '"']) := by
  simp [textChars, Quoted.json, Utf8.spelled_ascii]

/-- A reader makes a value of some bytes that start with a token, behind white space and before
whatever does not go on with a number. -/
structure Recovers (read : Reader Value) (bytes : Bytes) (v : Value) : Prop where
  starts : ∃ b tail, bytes = b :: tail ∧ isSpace b = false ∧ b ≠ byte ']'
  reads : ∀ {blank rest}, IsBlank blank → EndsNumber rest →
    Reads read (blank ++ (bytes ++ rest)) v rest

/-- A value of every kind is read by what its first byte says. -/
theorem recovers_any (hspace : isSpace b = false) (hclose : b ≠ byte ']')
    (h : ∀ {rest}, EndsNumber rest → Reads (anyValue inner b) (b :: (bytes ++ rest)) v rest) :
    Recovers (valueWith inner .any) (b :: bytes) v where
  starts := ⟨b, bytes, rfl, hspace, hclose⟩
  reads hblank hrest := (reads_peekToken hblank hspace).bind (h hrest)

/-! ### Values without brackets -/

/-- A word is known by its first letter. -/
theorem recovers_word {first : Char} {letters : List Char}
    (hany : anyValue inner (byte first) = do skip; word (letters.map byte); return v)
    (hascii : ∀ c ∈ first :: letters, c.toNat < 128) (hspace : isSpace (byte first) = false)
    (hclose : byte first ≠ byte ']') :
    Recovers (valueWith inner .any) (Utf8.spelled (first :: letters)) v := by
  rw [Utf8.spelled_eq_map hascii]
  refine recovers_any hspace hclose fun _ => ?_
  rw [hany]
  exact reads_skip.bind ((reads_word _).bind (.pure _ _))

theorem recovers_text (s : String) :
    Recovers (valueWith inner .any) (Utf8.spelled (textChars s)) (.text s) := by
  rw [spelled_textChars]
  refine recovers_any rfl (by decide) fun _ => ?_
  rw [List.append_assoc, List.singleton_append]
  exact reads_skip.bind ((reads_string s).bind (.pure _ _))

theorem recovers_integer {n : Int} (hword : IsWord n) :
    Recovers (valueWith inner .any) (Utf8.spelled (Number.integer n).chars)
      (.number (.integer n)) := by
  obtain ⟨b, bytes, heq, hfirst, hreads⟩ := reads_integer hword
  have hother : ∀ d : UInt8, d ≠ byte '-' → isDigit d = false → b ≠ d := by
    rintro d hminus hdigit rfl
    simp_all
  have hstarts : startsNumber b = true := by simpa [startsNumber] using hfirst
  have hspace : isSpace b = false := by
    simp [isSpace, hother 32 (by decide) rfl, hother 10 (by decide) rfl, hother 9 (by decide) rfl,
      hother 13 (by decide) rfl]
  rw [heq]
  refine recovers_any hspace (hother _ (by decide) rfl) fun hrest => ?_
  simp only [anyValue, hother (byte 'n') (by decide) rfl, hother (byte 't') (by decide) rfl,
    hother (byte 'f') (by decide) rfl, hstarts, if_true, if_false]
  exact (hreads hrest).bind (.pure _ _)

/-! ### Lists -/

theorem reads_hasItem_end {first : Bool} (hblank : IsBlank blank) :
    Reads (hasItem first) (blank ++ byte ']' :: rest) false (byte ']' :: rest) :=
  (reads_peekToken hblank rfl).bind (.pure _ _)

theorem reads_hasItem_first (hblank : IsBlank blank) (hspace : isSpace b = false)
    (hclose : b ≠ byte ']') : Reads (hasItem true) (blank ++ b :: rest) true (b :: rest) := by
  refine (reads_peekToken hblank hspace).bind ?_
  simpa [hclose] using Reads.pure _ _

theorem reads_hasItem_behind (hblank : IsBlank blank) (hspace : isSpace b = false)
    (hclose : b ≠ byte ']') :
    Reads (hasItem false) (byte ',' :: (blank ++ b :: rest)) true (b :: rest) := by
  refine (reads_peekToken .nil rfl).bind ?_
  refine reads_skip.bind ((reads_peekToken hblank hspace).bind ?_)
  simpa [hclose] using Reads.pure _ _

theorem reads_closeList (hblank : IsBlank blank) :
    Reads closeList (blank ++ byte ']' :: rest) () rest :=
  (reads_peekToken hblank rfl).bind reads_skip

theorem endsNumber_cons (h : isDigit b = false ∧ b ≠ byte '.' ∧ b ≠ byte 'e' ∧ b ≠ byte 'E') :
    EndsNumber (b :: rest) := by
  rintro _ ⟨⟩
  exact h

theorem endsNumber_nil : EndsNumber [] := by rintro _ ⟨⟩

theorem endsNumber_newline : EndsNumber (Utf8.spelled (newline indent) ++ rest) := by
  rw [newline, Utf8.spelled_ascii (by decide), List.cons_append]
  exact endsNumber_cons (by decide)

/-- What stands behind an item or a member does not go on with a number. -/
theorem endsNumber_items (indent : Nat) (xs : List Value) (rest : Bytes) :
    EndsNumber (Utf8.spelled (prettyItems indent xs) ++
      (Utf8.spelled (newline indent) ++ rest)) := by
  cases xs with
  | nil => exact endsNumber_newline
  | cons x xs =>
      rw [prettyItems, Utf8.spelled_ascii (by decide), List.cons_append]
      exact endsNumber_cons (by decide)

theorem endsNumber_members (indent : Nat) (members : Members) (rest : Bytes) :
    EndsNumber (Utf8.spelled (prettyMembers indent members) ++
      (Utf8.spelled (newline indent) ++ rest)) := by
  cases members with
  | nil => exact endsNumber_newline
  | cons member members =>
      rw [prettyMembers, Utf8.spelled_ascii (by decide), List.cons_append]
      exact endsNumber_cons (by decide)

/-- The items behind the first. -/
theorem reads_items {xs : List Value}
    (hitems : ∀ x ∈ xs, Recovers read (Utf8.spelled (x.prettyChars (indent + 1))) x.sorted)
    (hfuel : (Utf8.spelled (prettyItems indent xs) ++
      (Utf8.spelled (newline indent) ++ byte ']' :: rest)).length < fuel) :
    Reads (items read fuel false)
      (Utf8.spelled (prettyItems indent xs) ++
        (Utf8.spelled (newline indent) ++ byte ']' :: rest))
      (sortedItems xs) (byte ']' :: rest) := by
  induction xs generalizing fuel with
  | nil =>
      obtain _ | fuel := fuel
      · simp at hfuel
      · rw [items]
        exact (reads_hasItem_end (isBlank_newline indent)).bind (.pure _ _)
  | cons x xs ih =>
      obtain ⟨hx, hxs⟩ := List.forall_mem_cons.1 hitems
      obtain ⟨b, tail, heq, hspace, hclose⟩ := hx.starts
      obtain _ | fuel := fuel
      · simp at hfuel
      · simp only [prettyItems, Utf8.spelled_ascii, Char.reduceToNat, Nat.reduceLT,
          Utf8.spelled_append, List.cons_append, List.append_assoc] at hfuel ⊢
        rw [items]
        have hitem := hx.reads .nil (endsNumber_items indent xs (byte ']' :: rest))
        rw [heq] at hitem ⊢
        refine (reads_hasItem_behind (isBlank_newline _) hspace hclose).bind (hitem.bind ?_)
        refine (ih hxs ?_).bind (.pure _ _)
        simp at hfuel ⊢
        omega

theorem reads_closed_items {items : Reader (List Value)} {found : List Value}
    (h : Reads items bytes found (byte ']' :: rest)) :
    Reads (do let xs ← items; closeList; return Value.list xs) bytes (.list found) rest :=
  h.bind ((reads_closeList .nil).bind (.pure _ _))

/-- A list is read back if its items are. -/
theorem recovers_list {readAt : Shape → Reader Value} {xs : List Value}
    (hitems : ∀ x ∈ xs,
      Recovers (readAt .any) (Utf8.spelled (x.prettyChars (indent + 1))) x.sorted) :
    Recovers (valueWith (some readAt) .any) (Utf8.spelled ((Value.list xs).prettyChars indent))
      (.list (sortedItems xs)) := by
  cases xs with
  | nil =>
      refine recovers_any rfl (by decide) fun _ => ?_
      refine reads_skip.bind (reads_left.bind (reads_closed_items ?_))
      exact (reads_hasItem_end .nil).bind (.pure _ _)
  | cons x xs =>
      obtain ⟨hx, hxs⟩ := List.forall_mem_cons.1 hitems
      obtain ⟨b, tail, heq, hspace, hclose⟩ := hx.starts
      simp only [Value.prettyChars, Utf8.spelled_ascii, Char.reduceToNat, Nat.reduceLT,
        Utf8.spelled_append, Utf8.spelled_nil]
      refine recovers_any rfl (by decide) fun {rest} _ => ?_
      simp only [List.append_assoc, List.cons_append, List.nil_append]
      have hitem := hx.reads .nil (endsNumber_items indent xs (byte ']' :: rest))
      rw [heq] at hitem ⊢
      refine reads_skip.bind (reads_left.bind (reads_closed_items ?_))
      rw [items]
      refine (reads_hasItem_first (isBlank_newline _) hspace hclose).bind (hitem.bind ?_)
      refine (reads_items hxs ?_).bind (.pure _ _)
      simp
      omega

/-! ### Objects -/

variable {key : String} {first : Bool} {seen : Members}

theorem reads_nextKey_end (hblank : IsBlank blank) :
    Reads (nextKey first) (blank ++ byte '\x7d' :: rest) none (byte '\x7d' :: rest) :=
  (reads_peekToken hblank rfl).bind (.pure _ _)

/-- The bytes of a text are its quotes and what is read behind the first of them. -/
theorem reads_key (key : String) (rest : Bytes) :
    ∃ bytes, Utf8.spelled (textChars key) ++ rest = byte '"' :: bytes ∧
      Reads string bytes key rest := by
  refine ⟨_, ?_, reads_string key⟩
  rw [spelled_textChars, List.cons_append, List.append_assoc, List.singleton_append]

theorem reads_nextKey_first (hblank : IsBlank blank) :
    Reads (nextKey true) (blank ++ (Utf8.spelled (textChars key) ++ rest)) (some key) rest := by
  obtain ⟨bytes, heq, hkey⟩ := reads_key key rest
  rw [heq]
  refine (reads_peekToken hblank rfl).bind ?_
  exact reads_skip.bind (hkey.bind (.pure _ _))

theorem reads_nextKey_behind (hblank : IsBlank blank) :
    Reads (nextKey false) (byte ',' :: (blank ++ (Utf8.spelled (textChars key) ++ rest)))
      (some key) rest := by
  obtain ⟨bytes, heq, hkey⟩ := reads_key key rest
  rw [heq]
  refine (reads_peekToken .nil rfl).bind (reads_skip.bind ?_)
  refine (reads_peekToken hblank rfl).bind ?_
  exact reads_skip.bind (hkey.bind (.pure _ _))

theorem reads_colon : Reads colon (byte ':' :: rest) () rest :=
  (reads_peekToken .nil rfl).bind reads_skip

theorem reads_closeObject : Reads closeObject (byte '\x7d' :: rest) () rest :=
  (reads_peekToken .nil rfl).bind reads_skip

/-- What a map does with a member behind its key. -/
def keepMember (read : Reader Value) (key : String) (seen : Members) : Reader Members := do
  colon
  return insert key (← read) seen

theorem reads_keepMember (hv : Recovers read bytes v) (hrest : EndsNumber rest) :
    Reads (keepMember read key seen) (byte ':' :: byte ' ' :: (bytes ++ rest))
      (insert key v seen) rest := by
  have hblank : IsBlank [byte ' '] := by simp [IsBlank, isSpace, byte]
  exact reads_colon.bind ((hv.reads hblank hrest).bind (.pure _ _))

/-- The members behind the first. -/
theorem reads_members {found : Members}
    (hmembers : ∀ member ∈ found,
      Recovers read (Utf8.spelled (member.2.prettyChars (indent + 1))) member.2.sorted)
    (hfuel : (Utf8.spelled (prettyMembers indent found) ++
      (Utf8.spelled (newline indent) ++ byte '\x7d' :: rest)).length < fuel) :
    Reads (members (keepMember read) fuel false seen)
      (Utf8.spelled (prettyMembers indent found) ++
        (Utf8.spelled (newline indent) ++ byte '\x7d' :: rest))
      (sortedMembers found seen) (byte '\x7d' :: rest) := by
  induction found generalizing fuel seen with
  | nil =>
      obtain _ | fuel := fuel
      · simp at hfuel
      · rw [members]
        exact (reads_nextKey_end (isBlank_newline indent)).bind (.pure _ _)
  | cons member found ih =>
      obtain ⟨key, v⟩ := member
      obtain ⟨hv, hfound⟩ := List.forall_mem_cons.1 hmembers
      obtain _ | fuel := fuel
      · simp at hfuel
      · simp only [prettyMembers, Utf8.spelled_ascii, Char.reduceToNat, Nat.reduceLT,
          Utf8.spelled_append, List.cons_append, List.nil_append, List.append_assoc] at hfuel ⊢
        rw [members]
        refine (reads_nextKey_behind (isBlank_newline _)).bind ?_
        refine (reads_keepMember hv (endsNumber_members indent found _)).bind ?_
        refine ih hfound ?_
        simp at hfuel ⊢
        omega

theorem reads_closed_members {members : Reader Members} {found : Members}
    (h : Reads members bytes found (byte '\x7d' :: rest)) :
    Reads (do let found ← members; closeObject; return Value.object found) bytes
      (.object found) rest :=
  h.bind (reads_closeObject.bind (.pure _ _))

/-- An object is read back if what its members hold is. -/
theorem recovers_object {readAt : Shape → Reader Value} {found : Members}
    (hmembers : ∀ member ∈ found,
      Recovers (readAt .any) (Utf8.spelled (member.2.prettyChars (indent + 1)))
        member.2.sorted) :
    Recovers (valueWith (some readAt) .any)
      (Utf8.spelled ((Value.object found).prettyChars indent))
      (.object (sortedMembers found [])) := by
  cases found with
  | nil =>
      refine recovers_any rfl (by decide) fun _ => ?_
      refine reads_skip.bind (reads_left.bind (reads_closed_members ?_))
      exact (reads_nextKey_end .nil).bind (.pure _ _)
  | cons member found =>
      obtain ⟨key, v⟩ := member
      obtain ⟨hv, hfound⟩ := List.forall_mem_cons.1 hmembers
      simp only [Value.prettyChars, Utf8.spelled_ascii, Char.reduceToNat, Nat.reduceLT,
        Utf8.spelled_append, Utf8.spelled_nil]
      refine recovers_any rfl (by decide) fun {rest} _ => ?_
      simp only [List.append_assoc, List.cons_append, List.nil_append]
      refine reads_skip.bind (reads_left.bind (reads_closed_members ?_))
      refine (reads_nextKey_first (isBlank_newline _)).bind ?_
      refine (reads_keepMember hv (endsNumber_members indent found _)).bind ?_
      refine reads_members hfound ?_
      simp
      omega

/-! ### All values -/

/-- A value without brackets needs no reader for what is inside. -/
theorem recovers_scalar (hfits : v.Fits 0) :
    Recovers (valueWith inner .any) (Utf8.spelled (v.prettyChars indent)) v.sorted := by
  cases v with
  | null => exact recovers_word rfl (by simp) rfl (by decide)
  | bool flag =>
      cases flag with
      | true => exact recovers_word rfl (by simp) rfl (by decide)
      | false => exact recovers_word rfl (by simp) rfl (by decide)
  | number n =>
      cases n with
      | integer n => exact recovers_integer hfits
      | double => exact hfits.elim
  | text s => exact recovers_text s
  | list => exact hfits.elim
  | object => exact hfits.elim

/-- A value in range is read back, wherever in a document it stands. -/
theorem recovers_value (hfits : v.Fits depth) (indent : Nat) :
    Recovers (value depth .any) (Utf8.spelled (v.prettyChars indent)) v.sorted := by
  induction depth generalizing v indent with
  | zero => exact recovers_scalar hfits
  | succ depth ih =>
      cases v with
      | null => exact recovers_scalar trivial
      | bool => exact recovers_scalar trivial
      | number n =>
          cases n with
          | integer => exact recovers_scalar hfits
          | double => exact hfits.elim
      | text => exact recovers_scalar trivial
      | list xs => exact recovers_list fun x hx => ih (hfits x hx) (indent + 1)
      | object found => exact recovers_object fun member hm => ih (hfits member hm) (indent + 1)

end Reader

/-- A document that was written over several lines is read back as the value it was written
from. -/
theorem read_pretty {v : Value} (hfits : v.Fits Reader.maxDepth) :
    read .any (Utf8.encode v.pretty) = .ok v.sorted := by
  have hvalue := (Reader.recovers_value hfits 0).reads .nil Reader.endsNumber_nil
  have hdocument : Reader.Reads (Reader.document .any) (Utf8.spelled (v.prettyChars 0)) v.sorted
      [] := by
    rw [List.nil_append, List.append_nil] at hvalue
    exact hvalue.bind (Reader.reads_peekToken_end.bind (.pure _ _))
  obtain ⟨further, hrun⟩ := hdocument 0
  rw [read, Value.pretty, Utf8.encode_ofList, hrun]

end ClusterBundle.Json
