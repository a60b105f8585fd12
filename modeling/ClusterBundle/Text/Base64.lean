import ClusterBundle.Text.Utf8

/-!
Base64 with padding, read strictly.

Every four symbols spell three bytes; the last group may have two or three symbols and is then
filled up with `=`. A text is refused at the first byte that is no symbol, at padding in the wrong
place, and where the last symbol has bits that spell nothing.
-/

namespace ClusterBundle.Base64

inductive Fault where
  | badByte (index : Nat) (value : UInt8)
  /-- A single symbol is left over, and six bits spell no byte. -/
  | badLength
  | badLastSymbol (index : Nat) (value : UInt8)
  | badPadding
  deriving Repr, DecidableEq

def Fault.message : Fault → String
  | .badByte index value => s!"Invalid byte {value.toNat}, offset {index}."
  | .badLength => "Encoded text cannot have a 6-bit remainder."
  | .badLastSymbol index value => s!"Invalid last symbol {value.toNat}, offset {index}."
  | .badPadding => "Invalid padding"

def padByte : UInt8 := 61

/-- The six bits that a symbol stands for. -/
def symbol? (b : UInt8) : Option Nat :=
  let n := b.toNat
  if 65 ≤ n ∧ n ≤ 90 then some (n - 65)
  else if 97 ≤ n ∧ n ≤ 122 then some (n - 97 + 26)
  else if 48 ≤ n ∧ n ≤ 57 then some (n - 48 + 52)
  else if n = 43 then some 62
  else if n = 47 then some 63
  else none

/-- The symbols before the padding, with the number of padding bytes. -/
structure Symbols where
  values : List Nat
  padding : Nat
  deriving Repr, DecidableEq

/-- Reads padding from `index` on, where `first` is the index of its first byte. -/
def readPadding (first : Nat) : (index count : Nat) → Bytes → Except Fault Nat
  | _, count, [] => .ok count
  | index, count, b :: rest =>
      if b = padByte ∧ 2 ≤ index % 4 then readPadding first (index + 1) (count + 1) rest
      else .error (.badByte first padByte)

/-- Reads symbols from `index` on and the padding behind them. -/
def readSymbols : (index : Nat) → Bytes → Except Fault Symbols
  | _, [] => .ok ⟨[], 0⟩
  | index, b :: rest =>
      if b = padByte then
        if index % 4 < 2 then .error (.badByte index b)
        else (readPadding index (index + 1) 1 rest).map fun count => ⟨[], count⟩
      else
        match symbol? b with
        | none => .error (.badByte index b)
        | some value =>
            (readSymbols (index + 1) rest).map fun more =>
              { more with values := value :: more.values }

/-- The bytes that groups of symbols spell; bits that make no full byte are dropped. -/
def spell : List Nat → Bytes
  | a :: b :: c :: d :: rest =>
      UInt8.ofNat (a * 4 + b / 16) :: UInt8.ofNat (b % 16 * 16 + c / 4) ::
        UInt8.ofNat (c % 4 * 64 + d) :: spell rest
  | [a, b, c] => [UInt8.ofNat (a * 4 + b / 16), UInt8.ofNat (b % 16 * 16 + c / 4)]
  | [a, b] => [UInt8.ofNat (a * 4 + b / 16)]
  | _ => []

/-- The bits of the last symbol that belong to no byte. -/
def spareBits (values : List Nat) : Nat :=
  match values.length % 4 with
  | 2 => values.getLastD 0 % 16
  | 3 => values.getLastD 0 % 4
  | _ => 0

def decode (text : Bytes) : Except Fault Bytes :=
  if text.length % 4 = 1 then
    let last := text.getLastD padByte
    if last ≠ padByte ∧ (symbol? last).isNone then .error (.badByte (text.length - 1) last)
    else .error .badLength
  else
    match readSymbols 0 text with
    | .error fault => .error fault
    | .ok symbols =>
        let count := symbols.values.length
        if (count + symbols.padding) % 4 ≠ 0 then .error .badPadding
        else if spareBits symbols.values ≠ 0 then
          .error (.badLastSymbol (count - 1) (text.getD (count - 1) 0))
        else .ok (spell symbols.values)

end ClusterBundle.Base64
