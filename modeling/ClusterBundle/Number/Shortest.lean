import ClusterBundle.Number.Binary64

/-!
The shortest decimal text that reads back as a given double.

`digits` searches the decimal grids with 1, 2, …, 17 digits: on the first grid that has a point in
the interval of reals rounding to the double, it takes the nearer of the two points beside the
value. `text` lays the digits out, positionally for decimal exponents from -5 to 15 and with an
exponent otherwise.
-/

namespace ClusterBundle.Binary64

/-- The interval of reals that round to a magnitude, as numerators over one denominator. -/
structure Interval where
  low : Nat
  value : Nat
  high : Nat
  den : Nat
  /-- Whether the two ends belong to the interval: they are ties, which go to even mantissas. -/
  closed : Bool

def interval (x : Binary64) : Interval :=
  let (n, d) := powerOfTwo (x.exponent - 2)
  let gapBelow := if x.mantissa = 1 <<< 52 ∧ minExponent < x.exponent then 1 else 2
  { low := (4 * x.mantissa - gapBelow) * n
    value := 4 * x.mantissa * n
    high := (4 * x.mantissa + 2) * n
    den := d
    closed := x.mantissa % 2 = 0 }

/-- Whether the ratio `num / den` lies in the interval. -/
def Interval.contains (i : Interval) (num den : Nat) : Bool :=
  let below := i.low * den
  let here := num * i.den
  let above := i.high * den
  if i.closed then below ≤ here && here ≤ above else below < here && here < above

/-- The number `digits * 10 ^ exponent`. -/
structure Decimal where
  digits : Nat
  exponent : Int
  deriving Repr, DecidableEq

/-- `10 ^ exponent` as a ratio. -/
def powerOfTenRatio (exponent : Int) : Nat × Nat :=
  if 0 ≤ exponent then (Nat.pow 10 exponent.toNat, 1) else (1, Nat.pow 10 (-exponent).toNat)

/-- The largest `k` with `10 ^ k ≤ num / den`, searched upwards from `start`. -/
def decimalExponentFrom (num den : Nat) : (fuel : Nat) → (start : Int) → Int
  | 0, k => k
  | fuel + 1, k =>
      let (n, d) := powerOfTenRatio (k + 1)
      if n * den ≤ num * d then decimalExponentFrom num den fuel (k + 1) else k

/-- The exponent of the leading decimal digit of `num / den`. The start is below it by at most
one digit for every factor of ten between the powers of two around the ratio. -/
def decimalExponent (num den : Nat) : Int :=
  let bits : Int := (Nat.log2 num : Int) - (Nat.log2 den : Int) - 1
  let start := Int.fdiv (bits * 30103) 100000 - 2
  decimalExponentFrom num den 8 start

/-- The point nearest to the value on the grid of multiples of `10 ^ exponent`, if it rounds to
the same double. -/
def onGrid (i : Interval) (exponent : Int) : Option Nat :=
  let (n, d) := powerOfTenRatio exponent
  let lower := i.value * d / (i.den * n)
  let remainder := i.value * d % (i.den * n)
  let lowerFits := i.contains (lower * n) d
  let upperFits := i.contains ((lower + 1) * n) d
  let preferLower := 2 * remainder < i.den * n ∨ (2 * remainder = i.den * n ∧ lower % 2 = 0)
  if lowerFits && upperFits then some (if preferLower then lower else lower + 1)
  else if lowerFits then some lower
  else if upperFits then some (lower + 1)
  else none

/-- Tries the grids with ever more digits. -/
def searchGrids (i : Interval) (lead : Int) : (fuel digits : Nat) → Decimal
  | 0, digits =>
      let (n, d) := powerOfTenRatio (lead + 1 - digits)
      ⟨i.value * d / (i.den * n), lead + 1 - digits⟩
  | fuel + 1, digits =>
      let exponent := lead + 1 - digits
      match onGrid i exponent with
      | some found => ⟨found, exponent⟩
      | none => searchGrids i lead fuel (digits + 1)

/-- Moves trailing zeros of the digits into the exponent. -/
def dropZeros : (fuel : Nat) → Decimal → Decimal
  | 0, x => x
  | fuel + 1, x =>
      if x.digits ≠ 0 ∧ x.digits % 10 = 0 then dropZeros fuel ⟨x.digits / 10, x.exponent + 1⟩
      else x

/-- The shortest decimal that reads back as the magnitude of `x`, which is not zero. -/
def shortest (x : Binary64) : Decimal :=
  let i := interval x
  dropZeros 20 (searchGrids i (decimalExponent i.value i.den) 17 1)

def digitChars (n : Nat) : List Char := Nat.toDigits 10 n

/-- Digits with the decimal point set or an exponent put behind, by the size of the number. -/
def layout (x : Decimal) : List Char :=
  let digits := digitChars x.digits
  let lead : Int := (digits.length : Int) - 1 + x.exponent
  if -5 ≤ lead ∧ lead ≤ 15 then
    if 0 ≤ x.exponent then
      digits ++ List.replicate x.exponent.toNat '0' ++ ['.', '0']
    else if 0 ≤ lead then
      let whole := lead.toNat + 1
      digits.take whole ++ '.' :: digits.drop whole
    else
      ['0', '.'] ++ List.replicate (-lead - 1).toNat '0' ++ digits
  else
    let fraction := if digits.length ≤ 1 then [] else '.' :: digits.drop 1
    let sign := if 0 ≤ lead then '+' else '-'
    digits.take 1 ++ fraction ++ 'e' :: sign :: digitChars lead.natAbs

/-- The text of a double: the fewest digits that read back as the same number. -/
def text (x : Binary64) : String :=
  let magnitude := if x.isZero then ['0', '.', '0'] else layout (shortest x)
  String.ofList (if x.negative then '-' :: magnitude else magnitude)

end ClusterBundle.Binary64
