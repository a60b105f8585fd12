import ClusterBundle.Text.Utf8

/-!
The order of texts and that of their bytes.

Texts are compared character by character. UTF-8 is made so that the bytes that spell them compare
in the same way: a greater character starts with a greater byte, or is told apart by the first byte
in which the two differ. So to sort names is to sort them by their bytes.
-/

namespace ClusterBundle.Utf8

variable {a b : Nat} {front rest : Bytes}

theorem cons_lt_cons (ha : a < 256) (hb : b < 256) :
    UInt8.ofNat a :: front < UInt8.ofNat b :: rest ↔ a < b ∨ a = b ∧ front < rest := by
  rw [List.cons_lt_cons_iff, UInt8.lt_iff_toNat_lt, ← UInt8.toNat_inj]
  simp [Nat.mod_eq_of_lt ha, Nat.mod_eq_of_lt hb]

/-- The bytes of a smaller character are smaller, whatever stands behind either of the two. -/
theorem encodeChar_lt {c d : Char} (h : c < d) (front rest : Bytes) :
    String.utf8EncodeChar c ++ front < String.utf8EncodeChar d ++ rest := by
  have hless : c.val.toNat < d.val.toNat := h
  have hvalid := d.valid
  simp only [UInt32.isValidChar, Nat.isValidChar] at hvalid
  unfold String.utf8EncodeChar
  generalize c.val.toNat = v at *
  generalize d.val.toNat = w at *
  dsimp only
  -- the smaller number has a smaller front part, or the same one and a smaller last digit
  have hlast : v / 64 < w / 64 ∨ v / 64 = w / 64 ∧ v % 64 < w % 64 := by omega
  have hthird : v / 64 < w / 64 →
      v / 4096 < w / 4096 ∨ v / 4096 = w / 4096 ∧ v / 64 % 64 < w / 64 % 64 := by omega
  have hsecond : v / 4096 < w / 4096 →
      v / 262144 < w / 262144 ∨ v / 262144 = w / 262144 ∧ v / 4096 % 64 < w / 4096 % 64 := by omega
  have hfirst : v / 262144 < 8 ∧ w / 262144 < 8 := by omega
  -- the first bytes decide between different lengths, and within one length the first digit in
  -- which the numbers differ
  repeat' split
  all_goals simp (disch := omega) only [List.cons_append, List.nil_append, cons_lt_cons]
  all_goals omega

theorem encodeChars_lt {front rest : List Char} (h : front < rest) :
    front.flatMap String.utf8EncodeChar < rest.flatMap String.utf8EncodeChar := by
  induction front generalizing rest with
  | nil =>
      cases rest with
      | nil => exact absurd h (List.lt_irrefl [])
      | cons d rest =>
          have hlength : 0 < (String.utf8EncodeChar d).length := by
            rw [String.length_utf8EncodeChar]
            exact Char.utf8Size_pos d
          obtain ⟨byte, bytes, hbytes⟩ := List.exists_cons_of_length_pos hlength
          rw [List.flatMap_cons, hbytes]
          exact List.nil_lt_cons _ _
  | cons c front ih =>
      cases rest with
      | nil => cases h
      | cons d rest =>
          rw [List.flatMap_cons, List.flatMap_cons]
          rcases List.cons_lt_cons_iff.1 h with hless | ⟨rfl, hless⟩
          · exact encodeChar_lt hless _ _
          · exact List.append_left_lt (ih hless)

/-- Texts are in the order of their bytes. -/
theorem encode_lt_iff {text other : String} : encode text < encode other ↔ text < other := by
  constructor
  · intro h
    by_cases hless : text < other
    · exact hless
    · -- otherwise the two are the same or in the opposite order
      by_cases hgreater : other < text
      · exact absurd (encodeChars_lt hgreater) (List.lt_asymm h)
      · have hsame : text = other :=
          Std.le_antisymm (Std.not_lt.1 hgreater) (Std.not_lt.1 hless)
        exact absurd (hsame ▸ h) (List.lt_irrefl _)
  · exact encodeChars_lt

theorem encode_le_iff {text other : String} : encode text ≤ encode other ↔ text ≤ other := by
  rw [← Std.not_lt, ← Std.not_lt, encode_lt_iff]

end ClusterBundle.Utf8
