import ClusterBundle.Json.Fault

/-!
Walking over the bytes of a JSON document: white space, words, numbers and strings.

A fault is placed either at the cursor or one byte further, where the byte that is wrong has only
been looked at.
-/

namespace ClusterBundle.Json

/-- The part of a document that is still to be read and the number of bytes before it. -/
structure Cursor where
  rest : Bytes
  index : Nat
  deriving Repr

abbrev Reader := StateT Cursor (Except Flaw)

namespace Reader

def peek : Reader (Option UInt8) := do return (← get).rest.head?

/-- The number of bytes that are left, which bounds every loop over them. -/
def left : Reader Nat := do return (← get).rest.length

def skip : Reader Unit := modify fun c => ⟨c.rest.drop 1, c.index + min 1 c.rest.length⟩

def next : Reader (Option UInt8) := do
  let byte ← peek
  skip
  return byte

/-- Fails with the fault placed before the next byte. -/
def failHere {α : Type} (problem : Problem) : Reader α := do
  throw ⟨problem, (← get).index⟩

/-- Fails with the fault placed behind the next byte, if there is one. -/
def failNext {α : Type} (problem : Problem) : Reader α := do
  let c ← get
  throw ⟨problem, c.index + min 1 c.rest.length⟩

def isSpace (b : UInt8) : Bool := b = 32 || b = 10 || b = 9 || b = 13

def isDigit (b : UInt8) : Bool := 48 ≤ b && b ≤ 57

/-- Passes over the bytes of a kind. -/
def skipWhile (accepts : UInt8 → Bool) : Reader Unit :=
  modify fun c =>
    ⟨c.rest.dropWhile accepts, c.index + (c.rest.takeWhile accepts).length⟩

/-- Passes over white space and looks at the byte behind it. -/
def peekToken : Reader (Option UInt8) := do
  skipWhile isSpace
  peek

/-- Reads the letters of a word whose first letter was read. -/
def word : List UInt8 → Reader Unit
  | [] => return
  | expected :: letters => do
      match ← next with
      | none => failHere .endInValue
      | some b => if b = expected then word letters else failHere .expectedWord

def byte (c : Char) : UInt8 := UInt8.ofNat c.toNat

def restOfNull : Reader Unit := word [byte 'u', byte 'l', byte 'l']
def restOfTrue : Reader Unit := word [byte 'r', byte 'u', byte 'e']
def restOfFalse : Reader Unit := word [byte 'a', byte 'l', byte 's', byte 'e']

/-! ### Numbers -/

def digit (b : UInt8) : Nat := b.toNat - 48

/-- The number of values of an unsigned 64-bit integer. -/
def significandLimit : Nat := 1 <<< 64

def exponentLimit : Nat := 1 <<< 31

/-- `significand * 10 ^ exponent` as a double, scaled in steps of 308 decimal places at most.
Absent where it is too large. -/
def scaled : (fuel : Nat) → Binary64 → (exponent : Int) → Option Binary64
  | 0, _, _ => some (.zero false)
  | fuel + 1, f, exponent =>
      if exponent.natAbs ≤ 308 then
        if 0 ≤ exponent then f.mul (.powerOfTen exponent.natAbs)
        else f.div (.powerOfTen exponent.natAbs)
      else if f.isZero then some f
      else if 0 ≤ exponent then none
      else
        match f.div (.powerOfTen 308) with
        | some f => scaled fuel f (exponent + 308)
        | none => none

def double (negative : Bool) (significand : Nat) (exponent : Int) : Reader Binary64 :=
  match scaled 8 (.ofNat significand) exponent with
  | some f => return { f with negative := negative }
  | none => failHere .numberTooLarge

/-- The exponent of a number, from its `e` on. -/
def exponentPart (negative : Bool) (significand : Nat) (start : Int) : Reader Binary64 := do
  skip
  let down := (← peek) = some (byte '-')
  if down || (← peek) = some (byte '+') then skip
  match ← next with
  | none => failHere .endInValue
  | some b =>
      if !isDigit b then failHere .badNumber
      let digits := (← get).rest.takeWhile isDigit
      let rec go (seen : Nat) : List UInt8 → Reader (Option Nat)
        | [] => return some seen
        | d :: ds => do
            skip
            if exponentLimit ≤ seen * 10 + digit d then return none
            else go (seen * 10 + digit d) ds
      match ← go (digit b) digits with
      | some size => double negative significand (if down then start - size else start + size)
      | none =>
          if significand ≠ 0 && !down then failHere .numberTooLarge
          else
            skipWhile isDigit
            return .zero negative

def isExponentMark (b : Option UInt8) : Bool := b = some (byte 'e') || b = some (byte 'E')

/-- The end of a number behind its digits: an exponent or nothing. -/
def afterDigits (negative : Bool) (significand : Nat) (exponent : Int) : Reader Binary64 := do
  if isExponentMark (← peek) then exponentPart negative significand exponent
  else double negative significand exponent

/-- Takes digits into a significand as long as it stays within 64 bits, and counts them. -/
def takeDigits (significand : Nat) : List UInt8 → (count : Nat) → Reader (Nat × Nat)
  | [], count => return (significand, count)
  | d :: ds, count =>
      if significandLimit ≤ significand * 10 + digit d then return (significand, count)
      else do
        skip
        takeDigits (significand * 10 + digit d) ds (count + 1)

/-- The fraction of a number, from its point on. Digits that the significand has no room for are
passed over. -/
def fractionPart (negative : Bool) (significand : Nat) (start : Int) : Reader Binary64 := do
  skip
  let digits := (← get).rest.takeWhile isDigit
  if digits.isEmpty then
    match ← peek with
    | some _ => failNext .badNumber
    | none => failHere .endInValue
  let (significand, count) ← takeDigits significand digits 0
  skipWhile isDigit
  afterDigits negative significand (start - count)

/-- The end of a number behind its whole part, of which `dropped` digits are not in the
significand. -/
def afterWhole (negative : Bool) (significand dropped : Nat) : Reader Number := do
  if (← peek) = some (byte '.') then
    return .double (← fractionPart negative significand dropped)
  else if isExponentMark (← peek) then
    return .double (← exponentPart negative significand dropped)
  else if 0 < dropped then
    return .double (← double negative significand dropped)
  else if !negative then return .integer significand
  else if significand = 0 || 1 <<< 63 < significand then
    return .double { Binary64.ofNat significand with negative := true }
  else return .integer (-significand)

/-- A number behind its sign. -/
def number (negative : Bool) : Reader Number := do
  match ← next with
  | none => failHere .endInValue
  | some b =>
      if b = byte '0' then
        match ← peek with
        | some d => if isDigit d then failNext .badNumber else afterWhole negative 0 0
        | none => afterWhole negative 0 0
      else if isDigit b then
        let digits := (← get).rest.takeWhile isDigit
        let (significand, count) ← takeDigits (digit b) digits 0
        skipWhile isDigit
        afterWhole negative significand (digits.length - count)
      else failHere .badNumber

/-- A number that starts at the cursor. -/
def signedNumber : Reader Number := do
  if (← peek) = some (byte '-') then
    skip
    number true
  else number false

/-! ### Strings -/

def hexValue? (b : UInt8) : Option Nat :=
  if isDigit b then some (b.toNat - 48)
  else if 65 ≤ b ∧ b ≤ 70 then some (b.toNat - 55)
  else if 97 ≤ b ∧ b ≤ 102 then some (b.toNat - 87)
  else none

/-- Four hexadecimal digits. -/
def hexEscape : Reader Nat := do
  let c ← get
  match c.rest with
  | a₁ :: a₂ :: a₃ :: a₄ :: rest =>
      set (⟨rest, c.index + 4⟩ : Cursor)
      match hexValue? a₁, hexValue? a₂, hexValue? a₃, hexValue? a₄ with
      | some h₁, some h₂, some h₃, some h₄ => return ((h₁ * 16 + h₂) * 16 + h₃) * 16 + h₄
      | _, _, _, _ => failHere .badEscape
  | rest =>
      set (⟨[], c.index + rest.length⟩ : Cursor)
      failHere .endInString

/-- One byte of the second half of a character written as a pair of escapes. -/
def pairMark (c : Char) : Reader Unit := do
  match ← next with
  | none => failHere .endInString
  | some b => if b = byte c then return else failHere .unpairedEscape

/-- The character of an escape with a number. -/
def numberedEscape : Reader Char := do
  let first ← hexEscape
  if 0xDC00 ≤ first && first ≤ 0xDFFF then failHere .loneSurrogate
  else if first < 0xD800 || 0xDBFF < first then return Char.ofNat first
  else
    pairMark '\\'
    pairMark 'u'
    let second ← hexEscape
    if second < 0xDC00 || 0xDFFF < second then failHere .loneSurrogate
    else return Char.ofNat ((first - 0xD800) * 1024 + (second - 0xDC00) + 0x10000)

/-- The character that a letter behind a backslash stands for. -/
def letterEscape? (b : UInt8) : Option Char :=
  if b = byte '"' then some '"'
  else if b = byte '\\' then some '\\'
  else if b = byte '/' then some '/'
  else if b = byte 'b' then some '\x08'
  else if b = byte 'f' then some '\x0c'
  else if b = byte 'n' then some '\n'
  else if b = byte 'r' then some '\r'
  else if b = byte 't' then some '\t'
  else none

/-- The bytes of a string behind its opening quote, up to the closing one. -/
def stringBytes : (fuel : Nat) → (seen : List Bytes) → Reader Bytes
  | 0, _ => failHere .endInString
  | fuel + 1, seen => do
      match ← next with
      | none => failHere .endInString
      | some b =>
          if b = byte '"' then return seen.reverse.flatten
          else if b = byte '\\' then
            match ← next with
            | none => failHere .endInString
            | some e =>
                if e = byte 'u' then
                  let c ← numberedEscape
                  stringBytes fuel (String.utf8EncodeChar c :: seen)
                else
                  match letterEscape? e with
                  | some c => stringBytes fuel (String.utf8EncodeChar c :: seen)
                  | none => failHere .badEscape
          else if b < 32 then failHere .controlCharacter
          else stringBytes fuel ([b] :: seen)

/-- A string behind its opening quote. -/
def string : Reader String := do
  let bytes ← stringBytes ((← left) + 1) []
  match Utf8.decode bytes with
  | .ok text => return text
  | .error _ => failHere .badCodePoint

/-! ### Values that are passed over -/

/-- Passes over a string behind its opening quote without looking at its characters. -/
def ignoreString : (fuel : Nat) → Reader Unit
  | 0 => failHere .endInString
  | fuel + 1 => do
      match ← peek with
      | none => failHere .endInString
      | some b =>
          if b < 32 then failHere .controlCharacter
          else
            skip
            if b = byte '"' then return
            else if b = byte '\\' then
              match ← next with
              | none => failHere .endInString
              | some e =>
                  if e = byte 'u' then
                    discard hexEscape
                    ignoreString fuel
                  else if (letterEscape? e).isSome then ignoreString fuel
                  else failHere .badEscape
            else ignoreString fuel

def ignoreExponent : Reader Unit := do
  skip
  if (← peek) = some (byte '+') || (← peek) = some (byte '-') then skip
  match ← next with
  | some b => if isDigit b then skipWhile isDigit else failHere .badNumber
  | none => failHere .badNumber

def ignoreFraction : Reader Unit := do
  skip
  if ((← get).rest.takeWhile isDigit).isEmpty then failNext .badNumber
  skipWhile isDigit
  if isExponentMark (← peek) then ignoreExponent

/-- Passes over a number behind its sign. -/
def ignoreNumber : Reader Unit := do
  match ← next with
  | none => failHere .badNumber
  | some b =>
      if b = byte '0' then
        match ← peek with
        | some d => if isDigit d then failNext .badNumber
        | none => pure ()
      else if isDigit b then skipWhile isDigit
      else failHere .badNumber
      if (← peek) = some (byte '.') then ignoreFraction
      else if isExponentMark (← peek) then ignoreExponent

/-- The two kinds of brackets. -/
inductive Bracket where
  | list
  | object
  deriving Repr, DecidableEq

def Bracket.close : Bracket → UInt8
  | .list => byte ']'
  | .object => byte '\x7d'

def Bracket.expectedComma : Bracket → Problem
  | .list => .expectedCommaInList
  | .object => .expectedCommaInObject

def Bracket.endInside : Bracket → Problem
  | .list => .endInList
  | .object => .endInObject

/-- Passes over the key of an object's member and its colon. -/
def ignoreKey : Reader Unit := do
  match ← peekToken with
  | none => failNext .endInObject
  | some b =>
      if b = byte '"' then skip else failNext .keyNotText
  ignoreString ((← left) + 1)
  match ← peekToken with
  | none => failNext .endInObject
  | some b => if b = byte ':' then skip else failNext .expectedColon

/-- Passes over a scalar at the cursor, or over an opening bracket, which it returns. -/
def ignoreToken : Reader (Option Bracket) := do
  match ← peekToken with
  | none => failNext .endInValue
  | some b =>
      if b = byte 'n' then skip; restOfNull; return none
      else if b = byte 't' then skip; restOfTrue; return none
      else if b = byte 'f' then skip; restOfFalse; return none
      else if b = byte '-' then skip; ignoreNumber; return none
      else if isDigit b then ignoreNumber; return none
      else if b = byte '"' then skip; ignoreString ((← left) + 1); return none
      else if b = byte '[' then skip; return some .list
      else if b = byte '\x7b' then skip; return some .object
      else failNext .expectedValue

/-- Passes over closing brackets up to the start of the next item or to the end of the value.
Returns the brackets that are still open; `complete` says whether an item stands before. -/
def ignoreClosing (fuel : Nat) (complete : Bool) (stack : List Bracket) :
    Reader (List Bracket) := do
  match fuel, stack with
  | _, [] | 0, _ => return []
  | fuel + 1, bracket :: outer =>
      match ← peekToken with
      | none => failNext bracket.endInside
      | some b =>
          if complete && b = byte ',' then
            skip
            return bracket :: outer
          else if b = bracket.close then
            skip
            ignoreClosing fuel true outer
          else if complete then failNext bracket.expectedComma
          else return bracket :: outer

/-- Passes over the items that the open brackets still hold. -/
def ignoreItems : (fuel : Nat) → (stack : List Bracket) → Reader Unit
  | 0, _ => failHere .endInValue
  | fuel + 1, stack => do
      let stack ← match ← ignoreToken with
        | some bracket => ignoreClosing ((← left) + 1) false (bracket :: stack)
        | none => ignoreClosing ((← left) + 1) true stack
      match stack with
      | [] => return
      | bracket :: _ =>
          if bracket = .object then ignoreKey
          ignoreItems fuel stack

/-- Passes over a value of any depth. -/
def ignore : Reader Unit := do ignoreItems ((← left) + 1) []

end Reader

end ClusterBundle.Json
