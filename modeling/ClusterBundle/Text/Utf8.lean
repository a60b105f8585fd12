/-!
Byte strings and their reading as UTF-8.

A byte string is cut once into pieces, each a character or a run of bytes that no character
starts. Strict reading accepts the strings without a faulty piece and reports the first one;
lossy reading puts the replacement character for every faulty piece, so it never fails.
-/

namespace ClusterBundle

/-- The content of a file, of a command's output or of a message body. -/
abbrev Bytes := List UInt8

namespace Utf8

/-- What stands at the front of a non-empty byte string. -/
inductive Front where
  /-- A character and the number of bytes that spell it. -/
  | char (value : Char) (width : Nat)
  /-- So many bytes that no continuation turns into a character. -/
  | bad (width : Nat)
  /-- A proper beginning of a character, with the end of the text behind it. -/
  | cut
  deriving Repr, DecidableEq

/-- How many bytes a character takes that starts with this byte; zero if none does. -/
def leadWidth (lead : UInt8) : Nat :=
  if lead < 0x80 then 1
  else if lead < 0xC2 then 0
  else if lead < 0xE0 then 2
  else if lead < 0xF0 then 3
  else if lead < 0xF5 then 4
  else 0

def isContinuation (b : UInt8) : Bool := 0x80 ≤ b && b ≤ 0xBF

/-- The second byte is held to a narrower range after some leads, which shuts out overlong
spellings, surrogates and everything past the last code point. -/
def isSecond (lead b : UInt8) : Bool :=
  if lead = 0xE0 then 0xA0 ≤ b && b ≤ 0xBF
  else if lead = 0xED then 0x80 ≤ b && b ≤ 0x9F
  else if lead = 0xF0 then 0x90 ≤ b && b ≤ 0xBF
  else if lead = 0xF4 then 0x80 ≤ b && b ≤ 0x8F
  else isContinuation b

/-- Reads the `need` bytes that are still missing of a character. -/
def scan : (need : Nat) → (accepts : UInt8 → Bool) → (code seen : Nat) → Bytes → Front
  | 0, _, code, seen, _ => .char (Char.ofNat code) seen
  | _ + 1, _, _, _, [] => .cut
  | need + 1, accepts, code, seen, b :: rest =>
      if accepts b then
        scan need isContinuation (code * 64 + (b.toNat - 0x80)) (seen + 1) rest
      else .bad seen

/-- The payload bits that the lead byte of a character of this width carries. -/
def leadBits (lead : UInt8) : Nat :=
  match leadWidth lead with
  | 2 => lead.toNat - 0xC0
  | 3 => lead.toNat - 0xE0
  | 4 => lead.toNat - 0xF0
  | _ => lead.toNat

def front (lead : UInt8) (rest : Bytes) : Front :=
  match leadWidth lead with
  | 0 => .bad 1
  | width + 1 => scan width (isSecond lead) (leadBits lead) 1 rest

/-- A character of a byte string, or a stretch of it that is none. -/
inductive Piece where
  | char (value : Char) (width : Nat)
  | bad (width : Nat)
  | cut (width : Nat)
  deriving Repr, DecidableEq

/-- Cuts a byte string into its characters and the stretches that are none. -/
def pieces : Bytes → List Piece
  | [] => []
  | lead :: rest =>
      match front lead rest with
      | .char c width => .char c width :: pieces (rest.drop (width - 1))
      | .bad width => .bad width :: pieces (rest.drop (width - 1))
      | .cut => [.cut (rest.length + 1)]
termination_by bytes => bytes.length
decreasing_by all_goals (simp only [List.length_drop, List.length_cons]; omega)

/-- The first fault of a byte string that is not UTF-8. -/
structure Fault where
  /-- How many bytes before the fault are in order. -/
  validUpTo : Nat
  /-- The length of the fault; absent if the text ends inside a character. -/
  width : Option Nat
  deriving Repr, DecidableEq

def Fault.message (fault : Fault) : String :=
  match fault.width with
  | some width => s!"invalid utf-8 sequence of {width} bytes from index {fault.validUpTo}"
  | none => s!"incomplete utf-8 byte sequence from index {fault.validUpTo}"

def decodePieces : (offset : Nat) → List Piece → Except Fault (List Char)
  | _, [] => .ok []
  | offset, .char c width :: rest =>
      match decodePieces (offset + width) rest with
      | .ok text => .ok (c :: text)
      | .error fault => .error fault
  | offset, .bad width :: _ => .error ⟨offset, some width⟩
  | offset, .cut _ :: _ => .error ⟨offset, none⟩

/-- Strict reading: the text, or the first fault. -/
def decode (bytes : Bytes) : Except Fault String :=
  (decodePieces 0 (pieces bytes)).map String.ofList

def Piece.shown : Piece → Char
  | .char c _ => c
  | .bad _ | .cut _ => '\uFFFD'

/-- Lossy reading: every fault is shown as the replacement character. -/
def lossy (bytes : Bytes) : String :=
  String.ofList ((pieces bytes).map Piece.shown)

/-- The bytes that spell a text. -/
def encode (text : String) : Bytes := text.toList.flatMap String.utf8EncodeChar

@[simp] theorem encode_empty : encode "" = [] := by simp [encode]

theorem encode_append (s t : String) : encode (s ++ t) = encode s ++ encode t := by
  simp [encode, String.toList_append, List.flatMap_append]

end Utf8

end ClusterBundle
