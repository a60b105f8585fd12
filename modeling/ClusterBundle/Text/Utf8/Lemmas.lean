import ClusterBundle.Text.Utf8

/-!
Reading what was written. A text that is spelled in UTF-8 is cut into its own characters, so strict
reading gives it back (`decode_encode`) and lossy reading loses nothing of it (`lossy_encode`).
-/

namespace ClusterBundle.Utf8

theorem toNat_ofNat_of_lt {n : Nat} (h : n < 256) : (UInt8.ofNat n).toNat = n := by
  simp [Nat.mod_eq_of_lt h]

/-- The width that a lead byte announces, said of its number. -/
theorem leadWidth_ofNat {n : Nat} (h : n < 256) :
    leadWidth (UInt8.ofNat n) =
      if n < 0x80 then 1 else if n < 0xC2 then 0 else if n < 0xE0 then 2
      else if n < 0xF0 then 3 else if n < 0xF5 then 4 else 0 := by
  simp [leadWidth, UInt8.lt_iff_toNat_lt, Nat.mod_eq_of_lt h]

theorem isContinuation_ofNat {n : Nat} (h : n < 256) :
    isContinuation (UInt8.ofNat n) = (decide (0x80 ≤ n) && decide (n ≤ 0xBF)) := by
  simp [isContinuation, UInt8.le_iff_toNat_le, Nat.mod_eq_of_lt h]

theorem isSecond_ofNat {lead n : Nat} (hl : lead < 256) (h : n < 256) :
    isSecond (UInt8.ofNat lead) (UInt8.ofNat n) =
      if lead = 0xE0 then decide (0xA0 ≤ n) && decide (n ≤ 0xBF)
      else if lead = 0xED then decide (0x80 ≤ n) && decide (n ≤ 0x9F)
      else if lead = 0xF0 then decide (0x90 ≤ n) && decide (n ≤ 0xBF)
      else if lead = 0xF4 then decide (0x80 ≤ n) && decide (n ≤ 0x8F)
      else decide (0x80 ≤ n) && decide (n ≤ 0xBF) := by
  simp [isSecond, isContinuation, UInt8.le_iff_toNat_le, ← UInt8.toNat_inj, Nat.mod_eq_of_lt h,
    Nat.mod_eq_of_lt hl]

/-- The bytes that spell a character are read as that character. -/
theorem pieces_encodeChar (c : Char) (rest : Bytes) :
    pieces (String.utf8EncodeChar c ++ rest) =
      .char c c.utf8Size :: pieces rest := by
  rw [← String.length_utf8EncodeChar]
  have valid := c.valid
  have back : Char.ofNat c.val.toNat = c := Char.ofNat_toNat c
  simp only [UInt32.isValidChar, Nat.isValidChar] at valid
  unfold String.utf8EncodeChar
  generalize hv : c.val.toNat = v at *
  dsimp only
  split
  · have hw : leadWidth (UInt8.ofNat v) = 1 := by
      rw [leadWidth_ofNat (by omega), if_pos (by omega)]
    have hb : leadBits (UInt8.ofNat v) = v := by
      simp only [leadBits, hw]; exact toNat_ofNat_of_lt (by omega)
    rw [List.singleton_append, pieces]
    simp [front, hw, scan, hb, back]
  · split
    · have hw : leadWidth (UInt8.ofNat (v / 64 % 32 + 192)) = 2 := by
        rw [leadWidth_ofNat (by omega), if_neg (by omega), if_neg (by omega), if_pos (by omega)]
      have hb : leadBits (UInt8.ofNat (v / 64 % 32 + 192)) = v / 64 % 32 := by
        simp only [leadBits, hw]; rw [toNat_ofNat_of_lt (by omega)]; omega
      have h2 : isSecond (UInt8.ofNat (v / 64 % 32 + 192)) (UInt8.ofNat (v % 64 + 128)) = true := by
        rw [isSecond_ofNat (by omega) (by omega)]
        repeat rw [if_neg (by omega)]
        simp; omega
      have hcode : v / 64 % 32 * 64 + ((UInt8.ofNat (v % 64 + 128)).toNat - 128) = v := by
        rw [toNat_ofNat_of_lt (by omega)]; omega
      simp only [List.cons_append, List.nil_append]
      rw [pieces]
      simp only [front, hw, scan, h2, hb, if_true, hcode, back]
      simp
    · split
      · have hw : leadWidth (UInt8.ofNat (v / 4096 % 16 + 224)) = 3 := by
          rw [leadWidth_ofNat (by omega)]
          repeat rw [if_neg (by omega)]
          rw [if_pos (by omega)]
        have hb : leadBits (UInt8.ofNat (v / 4096 % 16 + 224)) = v / 4096 % 16 := by
          simp only [leadBits, hw]; rw [toNat_ofNat_of_lt (by omega)]; omega
        have h2 : isSecond (UInt8.ofNat (v / 4096 % 16 + 224))
            (UInt8.ofNat (v / 64 % 64 + 128)) = true := by
          rw [isSecond_ofNat (by omega) (by omega)]
          split
          · simp; omega
          · split
            · simp; omega
            · rw [if_neg (by omega), if_neg (by omega)]
              simp; omega
        have h3 : isContinuation (UInt8.ofNat (v % 64 + 128)) = true := by
          rw [isContinuation_ofNat (by omega)]; simp; omega
        have hcode : (v / 4096 % 16 * 64 + ((UInt8.ofNat (v / 64 % 64 + 128)).toNat - 128)) * 64 +
            ((UInt8.ofNat (v % 64 + 128)).toNat - 128) = v := by
          rw [toNat_ofNat_of_lt (by omega), toNat_ofNat_of_lt (by omega)]; omega
        simp only [List.cons_append, List.nil_append]
        rw [pieces]
        simp only [front, hw, scan, h2, h3, hb, if_true, hcode, back]
        simp
      · have hw : leadWidth (UInt8.ofNat (v / 262144 % 8 + 240)) = 4 := by
          rw [leadWidth_ofNat (by omega)]
          repeat rw [if_neg (by omega)]
          rw [if_pos (by omega)]
        have hb : leadBits (UInt8.ofNat (v / 262144 % 8 + 240)) = v / 262144 % 8 := by
          simp only [leadBits, hw]; rw [toNat_ofNat_of_lt (by omega)]; omega
        have h2 : isSecond (UInt8.ofNat (v / 262144 % 8 + 240))
            (UInt8.ofNat (v / 4096 % 64 + 128)) = true := by
          rw [isSecond_ofNat (by omega) (by omega), if_neg (by omega), if_neg (by omega)]
          split
          · simp; omega
          · split
            · simp; omega
            · simp; omega
        have h3 : isContinuation (UInt8.ofNat (v / 64 % 64 + 128)) = true := by
          rw [isContinuation_ofNat (by omega)]; simp; omega
        have h4 : isContinuation (UInt8.ofNat (v % 64 + 128)) = true := by
          rw [isContinuation_ofNat (by omega)]; simp; omega
        have hcode :
            ((v / 262144 % 8 * 64 + ((UInt8.ofNat (v / 4096 % 64 + 128)).toNat - 128)) * 64 +
            ((UInt8.ofNat (v / 64 % 64 + 128)).toNat - 128)) * 64 +
            ((UInt8.ofNat (v % 64 + 128)).toNat - 128) = v := by
          rw [toNat_ofNat_of_lt (by omega), toNat_ofNat_of_lt (by omega),
            toNat_ofNat_of_lt (by omega)]
          omega
        simp only [List.cons_append, List.nil_append]
        rw [pieces]
        simp only [front, hw, scan, h2, h3, h4, hb, if_true, hcode, back]
        simp

theorem pieces_encode (text : List Char) :
    pieces (text.flatMap String.utf8EncodeChar) =
      text.map fun c => .char c c.utf8Size := by
  induction text with
  | nil => simp [pieces]
  | cons c rest ih => simp [pieces_encodeChar, ih]

theorem decodePieces_char (text : List Char) (offset : Nat) :
    decodePieces offset (text.map fun c => .char c c.utf8Size) =
      .ok text := by
  induction text generalizing offset with
  | nil => rfl
  | cons c rest ih => simp [decodePieces, ih]

/-- Strict reading gives back every text that was spelled out. -/
theorem decode_encode (text : String) : decode (encode text) = .ok text := by
  simp [decode, encode, pieces_encode, decodePieces_char, Except.map]

/-- Lossy reading loses nothing of what was spelled out. -/
theorem lossy_encode (text : String) : lossy (encode text) = text := by
  simp [lossy, encode, pieces_encode, Function.comp_def, Piece.shown]

end ClusterBundle.Utf8
