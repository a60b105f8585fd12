import ClusterBundle.Url.Basic

/-!
Numeric addresses of hosts.

An IPv4 address has up to four parts, each decimal, octal or hexadecimal; the last part fills all
bytes that are left. An IPv6 address has eight pieces, of which a run of zeros may be left out and
the last two may be written like an IPv4 address.
-/

namespace ClusterBundle.Url

def digitsValue (base : Nat) (digits : List Char) : Option Nat :=
  digits.foldl
    (fun value c =>
      match value, hexValue? c with
      | some n, some d => if d < base then some (n * base + d) else none
      | _, _ => none)
    (some 0)

/-- The value of a part of an IPv4 address; nothing after a base mark counts as zero. -/
def ipv4Part? (part : List Char) : Option Nat :=
  match part with
  | [] => none
  | '0' :: 'x' :: digits | '0' :: 'X' :: digits => digitsValue 16 digits
  | '0' :: d :: digits => digitsValue 8 (d :: digits)
  | digits => digitsValue 10 digits

/-- The parts of a host between its points, without an empty last one. -/
def ipv4Parts (host : List Char) : List (List Char) :=
  let parts := Text.splitChars '.' host
  if parts.getLast? = some [] then parts.dropLast else parts

/-- Whether a host has to be an IPv4 address because of its last part. -/
def endsInNumber (host : List Char) : Bool :=
  match (ipv4Parts host).getLast? with
  | none => false
  | some part => (!part.isEmpty && part.all Char.isDigit) || (ipv4Part? part).isSome

def ipv4? (host : List Char) : Option Nat := do
  let parts := ipv4Parts host
  if 4 < parts.length then none
  let numbers ← parts.mapM ipv4Part?
  let front := numbers.dropLast
  let last ← numbers.getLast?
  let bitsLeft := 32 - 8 * front.length
  if 1 <<< bitsLeft ≤ last || front.any (256 ≤ ·) then none
  else
    let high := front.foldl (fun value n => value * 256 + n) 0
    some (high <<< bitsLeft + last)

/-- A part of an IPv4 address inside an IPv6 address: decimal, without zeros in front. -/
def plainByte? (part : List Char) : Option Nat :=
  match part with
  | [] => none
  | '0' :: _ :: _ => none
  | digits =>
      match digitsValue 10 digits with
      | some n => if n < 256 then some n else none
      | none => none

/-- The last two pieces of an IPv6 address, written like an IPv4 address. -/
def ipv4Tail? (text : List Char) : Option (List Nat) :=
  match (Text.splitChars '.' text).mapM plainByte? with
  | some [a, b, c, d] => some [a * 256 + b, c * 256 + d]
  | _ => none

/-- Reads pieces of an IPv6 address. `seen` are those before, the last one first, and `gap` is how
many of them stand before the left-out zeros, of which one counts as a piece. -/
def ipv6Pieces : (fuel : Nat) → (seen : List Nat) → (gap : Option Nat) → List Char →
    Option (List Nat × Option Nat)
  | 0, _, _, _ => none
  | _ + 1, seen, gap, [] => some (seen, gap)
  | fuel + 1, seen, gap, c :: rest =>
      if 8 ≤ seen.length then none
      else if c = ':' then
        if gap.isSome then none
        else ipv6Pieces fuel (0 :: seen) (some (seen.length + 1)) rest
      else
        let digits := ((c :: rest).take 4).takeWhile fun d => (hexValue? d).isSome
        let value := (digitsValue 16 digits).getD 0
        match (c :: rest).drop digits.length with
        | [] => ipv6Pieces fuel (value :: seen) gap []
        | '.' :: _ =>
            if digits.isEmpty || 6 < seen.length then none
            else
              match ipv4Tail? (c :: rest) with
              | some pieces => some (pieces.reverse ++ seen, gap)
              | none => none
        | ':' :: [] => none
        | ':' :: more => ipv6Pieces fuel (value :: seen) gap more
        | _ => none

/-- The eight pieces of an IPv6 address. -/
def ipv6? (text : List Char) : Option (List Nat) :=
  let read := match text with
    | ':' :: ':' :: rest => ipv6Pieces (rest.length + 1) [0] (some 1) rest
    | ':' :: _ | [] | [_] => none
    | _ => ipv6Pieces (text.length + 1) [] none text
  match read with
  | none => none
  | some (seen, none) => if seen.length = 8 then some seen.reverse else none
  | some (seen, some gap) =>
      let pieces := seen.reverse
      if 8 < pieces.length then none
      else
        some (pieces.take gap ++ List.replicate (8 - pieces.length) 0 ++ pieces.drop gap)

end ClusterBundle.Url
