import ClusterBundle.Calendar.Date

/-!
Points in time, their text and the whole seconds between two of them.

A leap second is the second 59 with a fraction of one second or more: it is written as second 60.
-/

namespace ClusterBundle.Calendar

/-- Seconds since 1970-01-01 and nanoseconds within the second, in universal time. -/
structure Instant where
  seconds : Int
  nanos : Nat
  deriving Repr, DecidableEq

def nanosPerSecond : Nat := 1000000000

/-- Decimal digits, filled up with zeros at the left to a width. -/
def padded (width n : Nat) : String :=
  let digits := Nat.toDigits 10 n
  String.ofList (List.replicate (width - digits.length) '0' ++ digits)

/-- Years outside four digits carry their sign. -/
def yearText (year : Int) : String :=
  if 0 ≤ year ∧ year ≤ 9999 then padded 4 year.toNat
  else (if year < 0 then "-" else "+") ++ padded 4 year.natAbs

/-- The fraction of a second with three, six or nine digits, as few as are exact. -/
def fractionText (nanos : Nat) : String :=
  if nanos = 0 then ""
  else if nanos % 1000000 = 0 then "." ++ padded 3 (nanos / 1000000)
  else if nanos % 1000 = 0 then "." ++ padded 6 (nanos / 1000)
  else "." ++ padded 9 nanos

namespace Instant

def days (t : Instant) : Int := Int.fdiv t.seconds 86400

def secondOfDay (t : Instant) : Nat := (t.seconds - t.days * 86400).toNat

def date (t : Instant) : Date := Date.ofDays t.days

def text (t : Instant) : String :=
  let leap := nanosPerSecond ≤ t.nanos
  let second := t.secondOfDay % 60 + (if leap then 1 else 0)
  let nanos := if leap then t.nanos - nanosPerSecond else t.nanos
  yearText t.date.year ++ "-" ++ padded 2 t.date.month ++ "-" ++ padded 2 t.date.day ++ "T" ++
    padded 2 (t.secondOfDay / 3600) ++ ":" ++ padded 2 (t.secondOfDay / 60 % 60) ++ ":" ++
    padded 2 second ++ fractionText nanos ++ "Z"

/-- The seconds from `start` to `finish` without their fraction, cut toward zero. Where one of
the two lies in a leap second and the other beyond it on the clock, that second is counted. -/
def elapsedSeconds (start finish : Instant) : Int :=
  let clock : Int := (finish.secondOfDay : Int) - start.secondOfDay
  let leap : Int :=
    if start.secondOfDay < finish.secondOfDay ∧ nanosPerSecond ≤ start.nanos then 1
    else if finish.secondOfDay < start.secondOfDay ∧ nanosPerSecond ≤ finish.nanos then -1
    else 0
  let whole := (finish.days - start.days) * 86400 + clock + leap
  Int.tdiv (whole * nanosPerSecond + ((finish.nanos : Int) - start.nanos)) nanosPerSecond

end Instant

end ClusterBundle.Calendar
