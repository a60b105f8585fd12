/-!
Finite double-precision numbers in exact arithmetic.

A magnitude is `mantissa * 2 ^ exponent`. `roundRatio` takes a quotient of natural numbers to the
nearest such magnitude, a tie to the even mantissa; product and quotient of two doubles are the
exact ones rounded once. There is no infinity: a result too large is absent.
-/

namespace ClusterBundle

/-- A finite double. The mantissa has at most 53 bits and the exponent is at least -1074; where
the exponent is larger the mantissa has exactly 53 bits. -/
structure Binary64 where
  negative : Bool
  mantissa : Nat
  exponent : Int
  deriving Repr, DecidableEq

namespace Binary64

def minExponent : Int := -1074

def maxExponent : Int := 971

def mantissaLimit : Nat := 1 <<< 53

/-- The ratio `num / den` divided by `2 ^ exponent`, as a ratio again. -/
def scaleDown (num den : Nat) (exponent : Int) : Nat × Nat :=
  if 0 ≤ exponent then (num, den <<< exponent.toNat)
  else (num <<< (-exponent).toNat, den)

/-- The integer nearest to `num / den`, of two the even one. -/
def roundHalfEven (num den : Nat) : Nat :=
  let q := num / den
  let r := num % den
  if 2 * r < den then q
  else if den < 2 * r then q + 1
  else if q % 2 = 0 then q
  else q + 1

/-- The exponent with which the mantissa of `num / den` has 53 bits, or the least exponent. -/
def fitExponent (num den : Nat) : Int :=
  let guess : Int := (Nat.log2 num : Int) - (Nat.log2 den : Int) - 52
  let (n, d) := scaleDown num den guess
  let exact := if n < d <<< 52 then guess - 1 else guess
  max exact minExponent

/-- The magnitude nearest to `num / den` for positive `den`; absent where it is too large. -/
def roundRatio (num den : Nat) : Option (Nat × Int) :=
  if num = 0 then some (0, minExponent)
  else
    let exponent := fitExponent num den
    let (n, d) := scaleDown num den exponent
    let q := roundHalfEven n d
    let (q, exponent) := if q = mantissaLimit then (q / 2, exponent + 1) else (q, exponent)
    if maxExponent < exponent then none else some (q, exponent)

def ofRatio (negative : Bool) (num den : Nat) : Option Binary64 :=
  (roundRatio num den).map fun (m, e) => ⟨negative, m, e⟩

def zero (negative : Bool) : Binary64 := ⟨negative, 0, minExponent⟩

/-- The double nearest to a natural number below `2 ^ 64`. -/
def ofNat (n : Nat) : Binary64 := (ofRatio false n 1).getD (zero false)

def isZero (x : Binary64) : Bool := x.mantissa = 0

/-- `2 ^ exponent` as a ratio. -/
def powerOfTwo (exponent : Int) : Nat × Nat :=
  if 0 ≤ exponent then (1 <<< exponent.toNat, 1) else (1, 1 <<< (-exponent).toNat)

def mul (x y : Binary64) : Option Binary64 :=
  let (n, d) := powerOfTwo (x.exponent + y.exponent)
  ofRatio (x.negative != y.negative) (x.mantissa * y.mantissa * n) d

/-- The quotient by a double that is not zero. -/
def div (x y : Binary64) : Option Binary64 :=
  let (n, d) := powerOfTwo (x.exponent - y.exponent)
  ofRatio (x.negative != y.negative) (x.mantissa * n) (y.mantissa * d)

/-- The double nearest to `10 ^ k`, for `k` up to 308. -/
def powerOfTen (k : Nat) : Binary64 := ofNat (Nat.pow 10 k)

end Binary64

end ClusterBundle
