import ClusterBundle.Proofs.Json.Strings

/-!
An integer of 64 bits is read back as itself.

Its digits go into the significand one by one, which has room for all of them, and what follows
the last digit must not look like more of the number.
-/

namespace ClusterBundle.Json.Reader

variable {rest : Bytes} {d : Char} {digits : List Char} {n significand : Nat}

/-! ### Decimal digits -/

theorem toNat_of_isDigit (h : d.isDigit = true) : 48 ≤ d.toNat ∧ d.toNat ≤ 57 :=
  Char.isDigit_iff_toNat.1 h

theorem toNat_byte (h : d.isDigit = true) : (byte d).toNat = d.toNat := by
  have := toNat_of_isDigit h
  exact Utf8.toNat_ofNat_of_lt (by omega)

theorem isDigit_byte (h : d.isDigit = true) : isDigit (byte d) = true := by
  have := toNat_of_isDigit h
  simpa [isDigit, UInt8.le_iff_toNat_le, toNat_byte h] using this

theorem digit_byte (h : d.isDigit = true) : digit (byte d) = d.toNat - '0'.toNat := by
  rw [digit, toNat_byte h]
  rfl

theorem spelled_digits (h : ∀ d ∈ digits, d.isDigit = true) :
    Utf8.spelled digits = digits.map byte := by
  refine Utf8.spelled_eq_map fun d hd => ?_
  have := toNat_of_isDigit (h d hd)
  omega

/-- Only the number zero starts with the digit zero, and it has no other digit. -/
theorem toDigits_eq_cons (n : Nat) :
    ∃ d digits, Nat.toDigits 10 n = d :: digits ∧ (d = '0' → n = 0 ∧ digits = []) := by
  induction n using Nat.strongRecOn with
  | ind n ih =>
    rw [Nat.toDigits_eq_if (by decide)]
    split
    case isTrue hsmall =>
      have hdigit : ∀ m < 10, Nat.digitChar m = '0' → m = 0 := by decide
      exact ⟨_, _, rfl, fun hzero => ⟨hdigit n hsmall hzero, rfl⟩⟩
    case isFalse hlarge =>
      obtain ⟨d, digits, heq, hzero⟩ := ih (n / 10) (by omega)
      refine ⟨d, digits ++ [Nat.digitChar (n % 10)], by rw [heq, List.cons_append], fun hd => ?_⟩
      have := (hzero hd).1
      omega

/-! ### Taking digits -/

theorem le_ofDigitChars (significand : Nat) (digits : List Char) :
    significand ≤ Nat.ofDigitChars 10 digits significand := by
  induction digits generalizing significand with
  | nil => exact Nat.le_refl _
  | cons d digits ih =>
      have := ih (10 * significand + (d.toNat - '0'.toNat))
      simp only [Nat.ofDigitChars, List.foldl_cons] at this ⊢
      omega

theorem reads_takeDigits (count : Nat) (hdigits : ∀ d ∈ digits, d.isDigit = true)
    (hroom : Nat.ofDigitChars 10 digits significand < significandLimit) :
    Reads (takeDigits significand (digits.map byte) count) (digits.map byte ++ rest)
      (Nat.ofDigitChars 10 digits significand, count + digits.length) rest := by
  induction digits generalizing significand count with
  | nil => exact .pure _ _
  | cons d digits ih =>
      obtain ⟨hd, hdigits⟩ := List.forall_mem_cons.1 hdigits
      have hnext : significand * 10 + digit (byte d) =
          10 * significand + (d.toNat - '0'.toNat) := by
        rw [digit_byte hd, Nat.mul_comm]
      have hvalue : Nat.ofDigitChars 10 (d :: digits) significand =
          Nat.ofDigitChars 10 digits (10 * significand + (d.toNat - '0'.toNat)) := rfl
      rw [hvalue] at hroom ⊢
      have hfits := Nat.lt_of_le_of_lt (le_ofDigitChars _ _) hroom
      rw [List.map_cons, takeDigits, hnext, if_neg (Nat.not_le.2 hfits)]
      refine reads_skip.bind ?_
      have := ih (count + 1) hdigits hroom
      rwa [List.length_cons, Nat.add_comm digits.length, ← Nat.add_assoc]

/-! ### Whole numbers -/

/-- What may follow a number: nothing that would go on with it. -/
def EndsNumber (rest : Bytes) : Prop :=
  ∀ b, rest.head? = some b →
    isDigit b = false ∧ b ≠ byte '.' ∧ b ≠ byte 'e' ∧ b ≠ byte 'E'

/-- The integer of a sign and a size. -/
def signed (negative : Bool) (size : Nat) : Int := if negative then -size else size

/-- A size is in range of the integers that a sign goes with. -/
def InRange (negative : Bool) (size : Nat) : Prop :=
  if negative then 0 < size ∧ size ≤ 1 <<< 63 else size < significandLimit

theorem InRange.lt {negative : Bool} (h : InRange negative n) : n < significandLimit := by
  cases negative with
  | false => exact h
  | true => exact Nat.lt_of_le_of_lt h.2 (by decide)

theorem EndsNumber.takeWhile (h : EndsNumber rest) : rest.takeWhile isDigit = [] := by
  cases rest with
  | nil => rfl
  | cons b rest => simp [(h b rfl).1]

theorem EndsNumber.dropWhile (h : EndsNumber rest) : rest.dropWhile isDigit = rest := by
  cases rest with
  | nil => rfl
  | cons b rest => simp [(h b rfl).1]

theorem reads_afterWhole {negative : Bool} (hrest : EndsNumber rest)
    (hrange : InRange negative n) :
    Reads (afterWhole negative n 0) rest (.integer (signed negative n)) rest := by
  have hpoint : rest.head? ≠ some (byte '.') := fun h => (hrest _ h).2.1 rfl
  have hmark : isExponentMark rest.head? = false := by
    cases hhead : rest.head? with
    | none => rfl
    | some b => simp [isExponentMark, (hrest b hhead).2.2.1, (hrest b hhead).2.2.2]
  refine reads_peek.bind ?_
  rw [if_neg hpoint]
  refine reads_peek.bind ?_
  simp only [hmark, Bool.false_eq_true, if_false, Nat.lt_irrefl]
  cases negative with
  | false => exact .pure _ _
  | true =>
      obtain ⟨hpositive, hlarge⟩ : 0 < n ∧ n ≤ 1 <<< 63 := hrange
      have hnone : (n = 0 || 1 <<< 63 < n) = false := by
        simp only [Bool.or_eq_false_iff, decide_eq_false_iff_not]
        omega
      simp only [hnone, Bool.not_true, Bool.false_eq_true, if_false]
      exact .pure _ _

/-- A number behind its sign. -/
theorem reads_number {negative : Bool} (hrest : EndsNumber rest) (hrange : InRange negative n) :
    Reads (number negative) (Utf8.spelled (Nat.toDigits 10 n) ++ rest)
      (.integer (signed negative n)) rest := by
  have hdigits : ∀ d ∈ Nat.toDigits 10 n, d.isDigit = true :=
    fun d hd => Nat.isDigit_of_mem_toDigits (by decide) (by decide) hd
  have hvalue : Nat.ofDigitChars 10 (Nat.toDigits 10 n) 0 = n := Nat.ofDigitChars_ten_toDigits
  obtain ⟨d, digits, heq, hzero⟩ := toDigits_eq_cons n
  rw [spelled_digits hdigits]
  rw [heq] at hdigits hvalue ⊢
  obtain ⟨hd, hdigits⟩ := List.forall_mem_cons.1 hdigits
  have hd' := toNat_of_isDigit hd
  rw [List.map_cons, List.cons_append]
  refine reads_next.bind ?_
  have hiff : byte d = byte '0' ↔ d = '0' := byte_inj (by omega) (by decide)
  by_cases hd0 : d = '0'
  · obtain ⟨rfl, rfl⟩ := hzero hd0
    simp only [hd0, if_true, List.map_nil, List.nil_append]
    refine reads_peek.bind ?_
    cases rest with
    | nil => exact reads_afterWhole hrest hrange
    | cons b rest =>
        simp only [List.head?_cons, (hrest b rfl).1, Bool.false_eq_true, if_false]
        exact reads_afterWhole hrest hrange
  · have hfirst : digit (byte d) = d.toNat - '0'.toNat := digit_byte hd
    have hwhole : Nat.ofDigitChars 10 digits (digit (byte d)) = n := by
      rw [← hvalue, hfirst]
      simp [Nat.ofDigitChars]
    simp only [hiff, hd0, if_false, isDigit_byte hd, if_true]
    refine Reads.get_bind fun index => ?_
    have hlead : (digits.map byte ++ rest).takeWhile isDigit = digits.map byte := by
      rw [List.takeWhile_append_of_pos, hrest.takeWhile, List.append_nil]
      exact List.forall_mem_map.2 fun d hd => isDigit_byte (hdigits d hd)
    simp only [hlead]
    refine (reads_takeDigits 0 hdigits (hwhole.symm ▸ hrange.lt)).bind ?_
    refine (reads_skipWhile isDigit rest).bind ?_
    simp only [hrest.dropWhile, hwhole, List.length_map, Nat.zero_add, Nat.sub_self]
    exact reads_afterWhole hrest hrange

/-- Whether an integer has one of the two 64-bit forms. -/
def IsWord (n : Int) : Prop := -(1 <<< 63) ≤ n ∧ n < 1 <<< 64

theorem isWord_natural (h : n < significandLimit) : IsWord n := by
  have hlimit : significandLimit = 1 <<< 64 := rfl
  unfold IsWord
  omega

theorem chars_natural (n : Nat) : (Number.integer n).chars = Nat.toDigits 10 n :=
  Nat.toList_repr

theorem chars_negative (n : Nat) :
    (Number.integer (Int.negSucc n)).chars = '-' :: Nat.toDigits 10 (n + 1) := by
  have hchars : (Number.integer (Int.negSucc n)).chars = ("-" ++ (n + 1).repr).toList := rfl
  rw [hchars, String.toList_append, Nat.toList_repr]
  rfl

/-- The first digit of a number, which no sign can be taken for. -/
theorem spelled_toDigits (n : Nat) :
    ∃ b bytes, Utf8.spelled (Nat.toDigits 10 n) = b :: bytes ∧ isDigit b = true := by
  have hdigits : ∀ d ∈ Nat.toDigits 10 n, d.isDigit = true :=
    fun d hd => Nat.isDigit_of_mem_toDigits (by decide) (by decide) hd
  obtain ⟨d, digits, heq, -⟩ := toDigits_eq_cons n
  rw [spelled_digits hdigits]
  rw [heq] at hdigits ⊢
  exact ⟨byte d, digits.map byte, rfl, isDigit_byte (hdigits d List.mem_cons_self)⟩

/-- An integer is read back from its digits, and its first byte says that it is a number. -/
theorem reads_integer {n : Int} (hword : IsWord n) :
    ∃ b bytes, Utf8.spelled (Number.integer n).chars = b :: bytes ∧
      (b = byte '-' ∨ isDigit b = true) ∧
      ∀ {rest}, EndsNumber rest →
        Reads signedNumber (b :: (bytes ++ rest)) (.integer n) rest := by
  obtain ⟨hlow, hhigh⟩ := hword
  cases n with
  | ofNat n =>
      obtain ⟨b, bytes, heq, hdigit⟩ := spelled_toDigits n
      have hrange : InRange false n := Int.ofNat_lt.1 hhigh
      have hminus : ¬ some b = some (byte '-') := by
        rintro ⟨⟩
        exact absurd hdigit (by decide)
      refine ⟨b, bytes, (congrArg Utf8.spelled (chars_natural n)).trans heq, .inr hdigit, ?_⟩
      intro rest hrest
      refine reads_peek.bind ?_
      rw [List.head?_cons, if_neg hminus, ← List.cons_append, ← heq]
      exact reads_number hrest hrange
  | negSucc n =>
      have hrange : InRange true (n + 1) := ⟨Nat.succ_pos n, by omega⟩
      refine ⟨byte '-', Utf8.spelled (Nat.toDigits 10 (n + 1)), ?_, .inl rfl, fun hrest => ?_⟩
      · rw [chars_negative, Utf8.spelled_ascii (by decide)]
      · refine reads_peek.bind ?_
        rw [List.head?_cons, if_pos rfl]
        exact reads_skip.bind (reads_number hrest hrange)

end ClusterBundle.Json.Reader
