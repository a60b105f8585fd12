import ClusterBundle.Calendar.Date
import ClusterBundle.Text.Blank

/-!
Recognising the written form of a point in time: a date, a mark, a time of day and an offset.

Reading is lenient about white space around the numbers and about the spelling of the offset. The
parts are read from left to right, and the first fault is the one reported.
-/

namespace ClusterBundle.Calendar.Timestamp

inductive Fault where
  | outOfRange
  | invalid
  | tooShort
  | trailing
  deriving Repr, DecidableEq

def Fault.message : Fault → String
  | .outOfRange => "input is out of range"
  | .invalid => "input contains invalid characters"
  | .tooShort => "premature end of input"
  | .trailing => "trailing input"

def digitValue (c : Char) : Nat := c.toNat - '0'.toNat

/-- A number of at most `width` digits, and the text behind it. -/
def number (width : Nat) (text : List Char) : Except Fault (Nat × List Char) :=
  match text with
  | [] => .error .tooShort
  | c :: _ =>
      if c.isDigit then
        let digits := (text.take width).takeWhile Char.isDigit
        .ok (digits.foldl (fun n d => n * 10 + digitValue d) 0, text.drop digits.length)
      else .error .invalid

/-- A number between two bounds, white space before it skipped. -/
def field (low high : Nat) (text : List Char) : Except Fault (Nat × List Char) := do
  let (n, rest) ← number 2 (Text.dropBlank text)
  if low ≤ n ∧ n ≤ high then .ok (n, rest) else .error .outOfRange

/-- The largest magnitude of a signed 64-bit integer. -/
def wideLimit : Nat := 1 <<< 63

/-- A year: four digits at most, or a sign and any number of digits. -/
def year (text : List Char) : Except Fault (Int × List Char) := do
  let signed (negative : Bool) (digits : List Char) : Except Fault (Int × List Char) := do
    let (n, rest) ← number digits.length digits
    if wideLimit ≤ n then .error .outOfRange
    else
      let y : Int := if negative then -(n : Int) else n
      if -2147483648 ≤ y ∧ y ≤ 2147483647 then .ok (y, rest) else .error .outOfRange
  match Text.dropBlank text with
  | '-' :: digits => signed true digits
  | '+' :: digits => signed false digits
  | digits =>
      let (n, rest) ← number 4 digits
      .ok ((n : Int), rest)

/-- One character that has to stand here. -/
def mark (c : Char) (text : List Char) : Except Fault (List Char) :=
  match text with
  | [] => .error .tooShort
  | d :: rest => if d = c then .ok rest else .error .invalid

/-- The fraction of a second, if there is one; digits past the ninth are passed over. -/
def fraction : List Char → Except Fault (List Char)
  | '.' :: rest => do
      let (_, rest) ← number 9 rest
      .ok (rest.dropWhile Char.isDigit)
  | text => .ok text

/-- Two characters that are to be digits. -/
def digitPair : List Char → Except Fault ((Char × Char) × List Char)
  | [] => .error .tooShort
  | [c] => .error (if c.toNat < 0x80 then .tooShort else .invalid)
  | a :: b :: rest =>
      if a.isDigit && b.isDigit then .ok ((a, b), rest) else .error .invalid

/-- The hours and minutes of an offset behind its sign, in seconds. -/
def offsetSize (text : List Char) : Except Fault (Nat × List Char) := do
  let ((h₁, h₂), rest) ← digitPair text
  let rest := rest.dropWhile fun c => c = ':' || isBlank c
  let ((m₁, m₂), rest) ← digitPair rest
  if digitValue m₁ < 6 then
    .ok ((digitValue h₁ * 10 + digitValue h₂) * 3600 + (digitValue m₁ * 10 + digitValue m₂) * 60,
      rest)
  else .error .outOfRange

/-- The offset from universal time in seconds, without its sign. -/
def offset (text : List Char) : Except Fault (Nat × List Char) :=
  match text with
  | 'Z' :: rest | 'z' :: rest => .ok (0, rest)
  | '+' :: rest | '-' :: rest | '\u2212' :: rest => offsetSize rest
  | a :: b :: c :: rest =>
      if String.ofList ([a, b, c].map Char.toUpper) = "UTC" then .ok (0, rest)
      else .error .invalid
  | [] => .error .tooShort
  | _ :: _ => .error .invalid

/-- The years that a calendar date may have. -/
def isYear (year : Int) : Bool := -262143 ≤ year && year ≤ 262142

/-- Whether a text is a point in time, and if not, why. -/
def check (text : String) : Except Fault Unit := do
  let (y, rest) ← year text.toList
  let rest ← mark '-' (Text.dropBlank rest)
  let (month, rest) ← field 1 12 rest
  let rest ← mark '-' (Text.dropBlank rest)
  let (day, rest) ← field 1 31 rest
  let rest ← match rest with
    | 't' :: rest | 'T' :: rest | ' ' :: rest => .ok rest
    | _ :: _ => .error .invalid
    | [] => .error .tooShort
  let (_, rest) ← field 0 23 rest
  let rest ← mark ':' (Text.dropBlank rest)
  let (_, rest) ← field 0 59 rest
  let rest ← mark ':' (Text.dropBlank rest)
  let (_, rest) ← field 0 60 rest
  let rest ← fraction rest
  let (size, rest) ← offset (Text.dropBlank rest)
  if !(Text.dropBlank rest).isEmpty then throw .trailing
  if !(isYear y && isDate y month day) then throw .outOfRange
  if 86400 ≤ size then throw .outOfRange

end ClusterBundle.Calendar.Timestamp
