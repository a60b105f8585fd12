/-!
Labels of domain names spelled in ASCII: the ASCII characters of a label, and behind a dash the
others as numbers that say which character comes where.

The numbers are written with digits of 36 values. How many digits belong to a number depends on a
bias, which follows the numbers written before.
-/

namespace ClusterBundle.Url.Domain.Punycode

def base : Nat := 36
def lowest : Nat := 1
def highest : Nat := 26

/-- The value from which on a digit at a place does not end its number. -/
def threshold (place bias : Nat) : Nat :=
  if place ≤ bias then lowest else if bias + highest ≤ place then highest else place - bias

/-- Divides a number down until it is small, and counts the places that takes. -/
def settle : (fuel : Nat) → (delta place : Nat) → Nat × Nat
  | 0, delta, place => (delta, place)
  | fuel + 1, delta, place =>
      if 455 < delta then settle fuel (delta / 35) (place + base) else (delta, place)

/-- The bias after a number. -/
def adapt (delta count : Nat) (first : Bool) : Nat :=
  let damped := if first then delta / 700 else delta / 2
  let (rest, place) := settle 32 (damped + damped / count) 0
  place + 36 * rest / (rest + 38)

def digit (value : Nat) : Char :=
  if value < 26 then Char.ofNat (97 + value) else Char.ofNat (48 + value - 26)

def digitValue? (c : Char) : Option Nat :=
  if 'a' ≤ c ∧ c ≤ 'z' then some (c.toNat - 97)
  else if 'A' ≤ c ∧ c ≤ 'Z' then some (c.toNat - 65)
  else if c.isDigit then some (c.toNat - 48 + 26)
  else none

/-- The digits of a number. -/
def number (bias : Nat) : (fuel : Nat) → (place rest : Nat) → List Char
  | 0, _, _ => []
  | fuel + 1, place, rest =>
      let t := threshold place bias
      if rest < t then [digit rest]
      else
        digit (t + (rest - t) % (base - t)) ::
          number bias fuel (place + base) ((rest - t) / (base - t))

/-- What is kept between the numbers. -/
structure State where
  /-- The least code point that is still to come. -/
  code : Nat := 128
  delta : Nat := 0
  bias : Nat := 72
  /-- How many characters have been spelled. -/
  done : Nat
  first : Bool := true
  deriving Repr

/-- Spells one code point wherever it occurs. -/
def spellCode (code : Nat) : State → List Nat → State × List Char
  | state, [] => (state, [])
  | state, c :: rest =>
      if c < code then spellCode code { state with delta := state.delta + 1 } rest
      else if c = code then
        let digits := number state.bias 32 base state.delta
        let next : State :=
          { state with
            bias := adapt state.delta (state.done + 1) state.first
            delta := 0
            done := state.done + 1
            first := false }
        let (state, more) := spellCode code next rest
        (state, digits ++ more)
      else spellCode code state rest

/-- Spells the code points of a label from the least to the greatest. -/
def spellAll (label : List Nat) : State → List Nat → List Char
  | _, [] => []
  | state, code :: codes =>
      let start := { state with delta := state.delta + (code - state.code) * (state.done + 1) }
      let (state, digits) := spellCode code start label
      digits ++ spellAll label { state with code := code + 1, delta := state.delta + 1 } codes

def encode (label : List Char) : List Char :=
  let plain := label.filter fun c => c.toNat < 128
  let codes := ((label.map Char.toNat).filter (128 ≤ ·)).mergeSort.eraseDups
  let front := if plain.isEmpty then [] else plain ++ ['-']
  front ++ spellAll (label.map Char.toNat) { done := plain.length } codes

/-- Reads a number: its value and the text behind it. -/
def readNumber (bias : Nat) : (place weight value : Nat) → List Char → Option (Nat × List Char)
  | _, _, _, [] => none
  | place, weight, value, c :: rest =>
      match digitValue? c with
      | none => none
      | some d =>
          let value := value + d * weight
          let t := threshold place bias
          if d < t then some (value, rest)
          else readNumber bias (place + base) (weight * (base - t)) value rest

/-- Puts the characters into their places. -/
def place : (fuel : Nat) → (code index bias : Nat) → (first : Bool) → List Nat → List Char →
    Option (List Nat)
  | _, _, _, _, _, label, [] => some label
  | 0, _, _, _, _, _, _ => none
  | fuel + 1, code, index, bias, first, label, text =>
      match readNumber bias base 1 0 text with
      | none => none
      | some (delta, rest) =>
          let count := label.length + 1
          let total := index + delta
          let code := code + total / count
          let index := total % count
          if code < 0x110000 ∧ !(0xD800 ≤ code ∧ code ≤ 0xDFFF) then
            place fuel code (index + 1) (adapt delta count first) false
              (label.take index ++ code :: label.drop index) rest
          else none

/-- Splits at the last dash. -/
def splitLastDash (text : List Char) : List Char × List Char :=
  let back := text.reverse.takeWhile (· ≠ '-')
  if back.length = text.length then ([], text)
  else (text.take (text.length - back.length - 1), back.reverse)

/-- The label that an ASCII text spells. -/
def decode? (text : List Char) : Option (List Char) :=
  let (plain, digits) := splitLastDash text
  if plain.all fun c => c.toNat < 128 then
    (place digits.length 128 0 72 true (plain.map Char.toNat) digits).map (·.map Char.ofNat)
  else none

end ClusterBundle.Url.Domain.Punycode
