import ClusterBundle.Text.Blank
import ClusterBundle.Text.Utf8

/-!
Web addresses: their parts, their text and the ways in which a text fails to be one.
-/

namespace ClusterBundle

/-- Who answers at an address. -/
inductive Url.Host where
  | domain (name : String)
  /-- The address as a number below `2 ^ 32`. -/
  | ipv4 (address : Nat)
  /-- The eight pieces of the address, each below `2 ^ 16`. -/
  | ipv6 (pieces : List Nat)
  deriving Repr, DecidableEq

/-- The part of an address between the two slashes and the path. -/
structure Url.Authority where
  username : String := ""
  password : String := ""
  host : Url.Host
  port : Option Nat := none
  deriving Repr, DecidableEq

/-- The path of an address: segments, or one text where nothing is said about slashes. -/
inductive Url.Path where
  | segments (parts : List String)
  | verbatim (text : String)
  deriving Repr, DecidableEq

structure Url where
  scheme : String
  authority : Option Url.Authority
  path : Url.Path
  query : Option String := none
  fragment : Option String := none
  deriving Repr, DecidableEq

namespace Url

inductive Fault where
  | emptyHost
  | badDomain
  | badPort
  | badIpv4
  | badIpv6
  | badHostCharacter
  | relativeWithoutBase
  | relativeToVerbatim
  deriving Repr, DecidableEq

def Fault.message : Fault → String
  | .emptyHost => "empty host"
  | .badDomain => "invalid international domain name"
  | .badPort => "invalid port number"
  | .badIpv4 => "invalid IPv4 address"
  | .badIpv6 => "invalid IPv6 address"
  | .badHostCharacter => "invalid domain character"
  | .relativeWithoutBase => "relative URL without a base"
  | .relativeToVerbatim => "relative URL with a cannot-be-a-base base"

/-- The port of a scheme whose addresses always have a host; `file` has none. -/
def defaultPort? : String → Option Nat
  | "http" | "ws" => some 80
  | "https" | "wss" => some 443
  | "ftp" => some 21
  | _ => none

/-- Schemes whose addresses follow the rules for the web and for files. -/
def isSpecialScheme (scheme : String) : Bool := scheme = "file" || (defaultPort? scheme).isSome

/-! ### Escaping -/

def hexDigit (n : Nat) : Char :=
  if n < 10 then Char.ofNat (48 + n) else Char.ofNat (55 + n)

def escapeByte (b : UInt8) : List Char := ['%', hexDigit (b.toNat / 16), hexDigit (b.toNat % 16)]

/-- Escapes the characters of a kind and all that are not ASCII or are controls. -/
def escape (special : List Char) (text : List Char) : List Char :=
  text.flatMap fun c =>
    if c.toNat < 0x20 || 0x7E < c.toNat || special.contains c then
      (String.utf8EncodeChar c).flatMap escapeByte
    else [c]

def fragmentSpecials : List Char := [' ', '"', '<', '>', '\x60']

def pathSpecials : List Char := fragmentSpecials ++ ['#', '?', '\x7b', '\x7d']

def userSpecials : List Char := pathSpecials ++ ['/', ':', ';', '=', '@', '[', '\\', ']', '^', '|']

def querySpecials (specialScheme : Bool) : List Char :=
  [' ', '"', '#', '<', '>'] ++ (if specialScheme then ['\x27'] else [])

def hexValue? (c : Char) : Option Nat :=
  if c.isDigit then some (c.toNat - 48)
  else if 'a' ≤ c ∧ c ≤ 'f' then some (c.toNat - 87)
  else if 'A' ≤ c ∧ c ≤ 'F' then some (c.toNat - 55)
  else none

/-- The bytes that an escaped text stands for; a `%` without two digits stands for itself. -/
def unescape : List Char → Bytes
  | '%' :: a :: b :: rest =>
      match hexValue? a, hexValue? b with
      | some x, some y => UInt8.ofNat (x * 16 + y) :: unescape rest
      | _, _ => 37 :: unescape (a :: b :: rest)
  | c :: rest => String.utf8EncodeChar c ++ unescape rest
  | [] => []

/-! ### Text -/

/-- An IPv4 address as four numbers between points. -/
def ipv4Text (address : Nat) : String :=
  let part (shift : Nat) : String := toString ((address >>> shift) % 256)
  s!"{part 24}.{part 16}.{part 8}.{part 0}"

/-- The number of zeros at the front. -/
def leadingZeros (pieces : List Nat) : Nat := (pieces.takeWhile (· = 0)).length

/-- The start and length of the first longest run of zeros, searched from an index on. -/
def longestZeros : (index : Nat) → List Nat → Nat × Nat
  | index, [] => (index, 0)
  | index, piece :: rest =>
      let here := leadingZeros (piece :: rest)
      let later := longestZeros (index + 1) rest
      if later.2 ≤ here then (index, here) else later

def hexText (n : Nat) : String := String.ofList (Nat.toDigits 16 n)

/-- An IPv6 address; the longest run of two zeros or more is left out. -/
def ipv6Text (pieces : List Nat) : String :=
  let (start, length) := longestZeros 0 pieces
  let text (part : List Nat) : String := Text.joinWith ":" (part.map hexText)
  if 2 ≤ length then
    "[" ++ text (pieces.take start) ++ "::" ++ text (pieces.drop (start + length)) ++ "]"
  else "[" ++ text pieces ++ "]"

def Host.text : Host → String
  | .domain name => name
  | .ipv4 address => ipv4Text address
  | .ipv6 pieces => ipv6Text pieces

def Authority.text (a : Authority) : String :=
  let user :=
    if a.username = "" ∧ a.password = "" then ""
    else if a.password = "" then a.username ++ "@"
    else a.username ++ ":" ++ a.password ++ "@"
  let port := match a.port with
    | some n => s!":{n}"
    | none => ""
  user ++ a.host.text ++ port

def Path.text : Path → String
  | .verbatim text => text
  | .segments parts => parts.foldl (fun text part => text ++ "/" ++ part) ""

/-- Without an authority, a path with an empty first segment would be taken for one. -/
def pathFront (url : Url) : String :=
  match url.authority, url.path with
  | none, .segments ("" :: _ :: _) => "/."
  | _, _ => ""

def text (url : Url) : String :=
  let authority := match url.authority with
    | some a => "//" ++ a.text
    | none => ""
  let query := match url.query with
    | some q => "?" ++ q
    | none => ""
  let fragment := match url.fragment with
    | some f => "#" ++ f
    | none => ""
  url.scheme ++ ":" ++ authority ++ url.pathFront ++ url.path.text ++ query ++ fragment

/-- The host of an address, where it has one that is not empty. -/
def host? (url : Url) : Option Host :=
  match url.authority with
  | some a => if a.host = .domain "" then none else some a.host
  | none => none

/-- The port that an address is asked at. -/
def effectivePort? (url : Url) : Option Nat :=
  match url.authority.bind Authority.port with
  | some n => some n
  | none => defaultPort? url.scheme

end Url

end ClusterBundle
