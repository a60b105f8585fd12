import ClusterBundle.Json.Value
import ClusterBundle.Proofs.Json.Reads
import ClusterBundle.Text.Utf8.Lemmas

/-!
A string is read back as the text that it was written from.

The characters are taken one by one: `Spells` says what the bytes of a string up to its closing
quote stand for, whatever was read of it before, and each way of writing a character puts that
character in front.
-/

namespace ClusterBundle

/-- The bytes that spell characters. -/
def Utf8.spelled (chars : List Char) : Bytes := chars.flatMap String.utf8EncodeChar

namespace Utf8

variable {c : Char} {chars more : List Char}

@[simp] theorem spelled_nil : spelled [] = [] := rfl

theorem spelled_cons : spelled (c :: chars) = String.utf8EncodeChar c ++ spelled chars :=
  List.flatMap_cons

@[simp] theorem spelled_append : spelled (chars ++ more) = spelled chars ++ spelled more :=
  List.flatMap_append

theorem encode_ofList : encode (String.ofList chars) = spelled chars := by
  simp [encode, spelled]

theorem decode_spelled : decode (spelled chars) = .ok (String.ofList chars) := by
  rw [← encode_ofList, decode_encode]

/-- An ASCII character is one byte. -/
theorem encodeChar_ascii (h : c.toNat < 128) : String.utf8EncodeChar c = [Json.Reader.byte c] := by
  have hval : c.val.toNat ≤ 127 := Nat.le_of_lt_succ h
  simp only [String.utf8EncodeChar, hval, if_true]
  rfl

theorem spelled_ascii (h : c.toNat < 128) :
    spelled (c :: chars) = Json.Reader.byte c :: spelled chars := by
  rw [spelled_cons, encodeChar_ascii h, List.singleton_append]

theorem spelled_eq_map (h : ∀ c ∈ chars, c.toNat < 128) :
    spelled chars = chars.map Json.Reader.byte := by
  induction chars with
  | nil => rfl
  | cons c chars ih =>
      obtain ⟨hc, hchars⟩ := List.forall_mem_cons.1 h
      rw [spelled_ascii hc, ih hchars, List.map_cons]

/-- The bytes of every other character are no ASCII characters. -/
theorem le_toNat_of_mem_encodeChar {b : UInt8} (h : ¬ c.toNat < 128)
    (hb : b ∈ String.utf8EncodeChar c) : 128 ≤ b.toNat := by
  have hval : ¬ c.val.toNat ≤ 127 := fun hle => h (Nat.lt_succ_of_le hle)
  simp only [String.utf8EncodeChar, hval, if_false] at hb
  split at hb
  · simp only [List.mem_cons, List.not_mem_nil, or_false] at hb
    obtain rfl | rfl := hb <;> rw [toNat_ofNat_of_lt] <;> omega
  · split at hb
    · simp only [List.mem_cons, List.not_mem_nil, or_false] at hb
      obtain rfl | rfl | rfl := hb <;> rw [toNat_ofNat_of_lt] <;> omega
    · simp only [List.mem_cons, List.not_mem_nil, or_false] at hb
      obtain rfl | rfl | rfl | rfl := hb <;> rw [toNat_ofNat_of_lt] <;> omega

end Utf8

namespace Json.Reader

variable {bytes more rest : Bytes} {b h l : UInt8} {c : Char} {m n : Nat}

/-- Bytes that stand for `more` in a string and end behind its closing quote. A reader of them
needs no more turns than there are bytes. -/
def Spells (bytes more rest : Bytes) : Prop :=
  ∀ fuel seen, bytes.length < fuel →
    Reads (stringBytes fuel seen) bytes (seen.reverse.flatten ++ more) rest

namespace Spells

theorem close : Spells (byte '"' :: rest) [] rest := by
  rintro (_ | fuel) seen hfuel
  · simp at hfuel
  · rw [stringBytes]
    refine reads_next.bind ?_
    simpa using Reads.pure _ _

/-- A byte that stands for itself. -/
theorem plain (hquote : b ≠ byte '"') (hescape : b ≠ byte '\\') (hcontrol : ¬ b < 32)
    (hrest : Spells bytes more rest) : Spells (b :: bytes) (b :: more) rest := by
  rintro (_ | fuel) seen hfuel
  · simp at hfuel
  · rw [stringBytes]
    refine reads_next.bind ?_
    simpa [hquote, hescape, hcontrol] using hrest fuel ([b] :: seen) (by simpa using hfuel)

/-- A letter behind a backslash. -/
theorem letter (hletter : letterEscape? b = some c) (hu : b ≠ byte 'u')
    (hrest : Spells bytes more rest) :
    Spells (byte '\\' :: b :: bytes) (String.utf8EncodeChar c ++ more) rest := by
  rintro (_ | fuel) seen hfuel
  · simp at hfuel
  · rw [stringBytes]
    refine reads_next.bind ?_
    simp only [byte_inj, Char.reduceToNat, Nat.reduceLT, Char.reduceEq, if_false, if_true]
    refine reads_next.bind ?_
    simp only [hu, if_false, hletter]
    simpa using hrest fuel (String.utf8EncodeChar c :: seen) (by simp at hfuel; omega)

end Spells

theorem reads_hexEscape (hm : hexValue? h = some m) (hn : hexValue? l = some n) :
    Reads hexEscape (byte '0' :: byte '0' :: h :: l :: rest) (m * 16 + n) rest := by
  have hzero : hexValue? (byte '0') = some 0 := rfl
  refine Reads.get_bind fun index start => ⟨index + 4, ?_⟩
  simp [hzero, hm, hn]
  rfl

theorem reads_numberedEscape (hm : hexValue? h = some m) (hn : hexValue? l = some n)
    (hsmall : m * 16 + n < 0xD800) :
    Reads numberedEscape (byte '0' :: byte '0' :: h :: l :: rest) (Char.ofNat (m * 16 + n))
      rest := by
  refine (reads_hexEscape hm hn).bind ?_
  have hlow : ¬ 0xDC00 ≤ m * 16 + n := by omega
  simpa [hlow, hsmall] using Reads.pure _ _

/-- A character written by its number. -/
theorem Spells.numbered (hm : hexValue? h = some m) (hn : hexValue? l = some n)
    (hsmall : m * 16 + n < 0xD800) (hrest : Spells bytes more rest) :
    Spells (byte '\\' :: byte 'u' :: byte '0' :: byte '0' :: h :: l :: bytes)
      (String.utf8EncodeChar (Char.ofNat (m * 16 + n)) ++ more) rest := by
  rintro (_ | fuel) seen hfuel
  · simp at hfuel
  · rw [stringBytes]
    refine reads_next.bind ?_
    simp only [byte_inj, Char.reduceToNat, Nat.reduceLT, Char.reduceEq, if_false, if_true]
    refine reads_next.bind ?_
    simp only [if_true]
    refine (reads_numberedEscape hm hn hsmall).bind ?_
    simpa using hrest fuel (String.utf8EncodeChar (Char.ofNat (m * 16 + n)) :: seen)
      (by simp at hfuel; omega)

/-! ### The characters of a text -/

theorem controlEscape_eq (h : c.toNat < 32) :
    Quoted.controlEscape c =
      ['\\', 'u', '0', '0', Nat.digitChar (c.toNat / 16), Nat.digitChar (c.toNat % 16)] := by
  have hall : ∀ n < 32, Quoted.controlEscape (Char.ofNat n) =
      ['\\', 'u', '0', '0', Nat.digitChar (n / 16), Nat.digitChar (n % 16)] := by decide
  simpa using hall c.toNat h

theorem hexValue?_digitChar (h : n < 16) :
    hexValue? (byte (Nat.digitChar n)) = some n ∧ (Nat.digitChar n).toNat < 128 := by
  revert n
  decide

theorem Spells.control (h : c.toNat < 32) (hrest : Spells bytes more rest) :
    Spells (Utf8.spelled (Quoted.controlEscape c) ++ bytes) (String.utf8EncodeChar c ++ more)
      rest := by
  have hhigh := hexValue?_digitChar (n := c.toNat / 16) (by omega)
  have hlow := hexValue?_digitChar (n := c.toNat % 16) (by omega)
  have hchar : Char.ofNat (c.toNat / 16 * 16 + c.toNat % 16) = c := by
    rw [Nat.div_add_mod', Char.ofNat_toNat]
  have hspells := hrest.numbered hhigh.1 hlow.1 (by omega)
  rw [hchar] at hspells
  rw [controlEscape_eq h]
  simpa [Utf8.spelled_ascii, hhigh.2, hlow.2] using hspells

/-- A character that stands for itself. -/
theorem Spells.self (hquote : c ≠ '"') (hescape : c ≠ '\\') (hcontrol : ¬ c.toNat < 32)
    (hrest : Spells bytes more rest) :
    Spells (String.utf8EncodeChar c ++ bytes) (String.utf8EncodeChar c ++ more) rest := by
  have hplain : ∀ b ∈ String.utf8EncodeChar c, b ≠ byte '"' ∧ b ≠ byte '\\' ∧ ¬ b < 32 := by
    intro b hb
    by_cases hascii : c.toNat < 128
    · obtain rfl : b = byte c := by simpa [Utf8.encodeChar_ascii hascii] using hb
      refine ⟨by simpa [hascii], by simpa [hascii], ?_⟩
      rw [UInt8.lt_iff_toNat_lt, byte, Utf8.toNat_ofNat_of_lt (by omega)]
      exact hcontrol
    · have hlarge := Utf8.le_toNat_of_mem_encodeChar hascii hb
      refine ⟨?_, ?_, ?_⟩
      · rintro rfl
        exact absurd hlarge (by decide)
      · rintro rfl
        exact absurd hlarge (by decide)
      · rw [UInt8.lt_iff_toNat_lt]
        exact Nat.not_lt.2 (Nat.le_trans (by decide) hlarge)
  generalize String.utf8EncodeChar c = letters at hplain
  induction letters with
  | nil => exact hrest
  | cons b letters ih =>
      obtain ⟨⟨hquote, hescape, hcontrol⟩, hletters⟩ := List.forall_mem_cons.1 hplain
      exact (ih hletters).plain hquote hescape hcontrol

/-- A character written as a letter behind a backslash. -/
theorem Spells.escaped {e : Char} (he : e.toNat < 128) (hu : e ≠ 'u')
    (hletter : letterEscape? (byte e) = some c) (hrest : Spells bytes more rest) :
    Spells (Utf8.spelled ['\\', e] ++ bytes) (String.utf8EncodeChar c ++ more) rest := by
  simpa [Utf8.spelled_ascii, he] using hrest.letter hletter (by simpa [he])

/-- The three ways in which a character is written. -/
theorem jsonChar_cases (c : Char) :
    (∃ e : Char, e.toNat < 128 ∧ e ≠ 'u' ∧ letterEscape? (byte e) = some c ∧
      Quoted.jsonChar c = ['\\', e]) ∨
    (c.toNat < 32 ∧ Quoted.jsonChar c = Quoted.controlEscape c) ∨
    (c ≠ '"' ∧ c ≠ '\\' ∧ ¬ c.toNat < 32 ∧ Quoted.jsonChar c = [c]) := by
  by_cases hletter : c ∈ ['"', '\\', '\x08', '\t', '\n', '\x0c', '\r']
  · left
    simp only [List.mem_cons, List.not_mem_nil, or_false] at hletter
    obtain rfl | rfl | rfl | rfl | rfl | rfl | rfl := hletter
    all_goals exact ⟨_, by decide, by decide, rfl, rfl⟩
  · simp only [List.mem_cons, List.not_mem_nil, or_false, not_or] at hletter
    by_cases hcontrol : c.toNat < 32 <;> simp [Quoted.jsonChar, hletter, hcontrol]

/-- Every character is read back from what is written for it. -/
theorem Spells.char (c : Char) (hrest : Spells bytes more rest) :
    Spells (Utf8.spelled (Quoted.jsonChar c) ++ bytes) (String.utf8EncodeChar c ++ more) rest := by
  obtain ⟨e, he, hu, hletter, hjson⟩ | ⟨hcontrol, hjson⟩ | ⟨hquote, hescape, hcontrol, hjson⟩ :=
    jsonChar_cases c
  · exact hjson ▸ hrest.escaped he hu hletter
  · exact hjson ▸ hrest.control hcontrol
  · rw [hjson, Utf8.spelled_cons, Utf8.spelled_nil, List.append_nil]
    exact hrest.self hquote hescape hcontrol

theorem spells_text (chars : List Char) :
    Spells (Utf8.spelled (chars.flatMap Quoted.jsonChar) ++ byte '"' :: rest)
      (Utf8.spelled chars) rest := by
  induction chars with
  | nil => exact .close
  | cons c chars ih =>
      rw [List.flatMap_cons, Utf8.spelled_append, List.append_assoc, Utf8.spelled_cons]
      exact ih.char c

/-- A string behind its opening quote is read as the text it was written from. -/
theorem reads_string (text : String) :
    Reads string (Utf8.spelled (text.toList.flatMap Quoted.jsonChar) ++ byte '"' :: rest) text
      rest := by
  refine reads_left.bind (((spells_text text.toList) _ [] (Nat.lt_succ_self _)).bind ?_)
  simp only [List.reverse_nil, List.flatten_nil, List.nil_append, Utf8.decode_spelled,
    String.ofList_toList]
  exact .pure _ _

end Json.Reader

end ClusterBundle
