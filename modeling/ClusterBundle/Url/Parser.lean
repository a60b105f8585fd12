import ClusterBundle.Url.Address
import ClusterBundle.Url.Domain.Basic

/-!
Reading web addresses, absolute or relative to a base.

Blanks at the ends and line breaks and tabs everywhere are left out first. Then the scheme decides
what follows: the schemes of the web have a host in any case and take a backslash for a slash.
-/

namespace ClusterBundle.Url

/-- What an address is read from: the text without what never counts. -/
def clean (text : String) : List Char :=
  let isEdge (c : Char) : Bool := c.toNat ≤ 0x20
  let front := text.toList.dropWhile isEdge
  let trimmed := (front.reverse.dropWhile isEdge).reverse
  trimmed.filter fun c => !(c = '\t' || c = '\n' || c = '\r')

def isSchemeChar (c : Char) : Bool := c.isAlphanum || c = '+' || c = '-' || c = '.'

/-- The scheme at the front of a text and what stands behind its colon. -/
def scheme? (text : List Char) : Option (String × List Char) :=
  let name := text.takeWhile isSchemeChar
  match name, text.drop name.length with
  | c :: _, ':' :: rest =>
      if c.isAlpha then some (String.ofList (name.map Char.toLower), rest) else none
  | _, _ => none

def isSlash (special : Bool) (c : Char) : Bool := c = '/' || (special && c = '\\')

def endsAuthority (special : Bool) (c : Char) : Bool := isSlash special c || c = '?' || c = '#'

/-! ### Path, query and fragment -/

/-- A segment that goes one level up. -/
def isDoubleDot (segment : List Char) : Bool :=
  ["..", "%2e.", ".%2e", "%2e%2e"].contains (String.ofList (segment.map Char.toLower))

/-- A segment that stays where it is. -/
def isSingleDot (segment : List Char) : Bool :=
  [".", "%2e"].contains (String.ofList (segment.map Char.toLower))

/-- Splits a path at its slashes. -/
def splitPath (special : Bool) (text : List Char) : List (List Char) :=
  Text.splitChars '/' (text.map fun c => if isSlash special c then '/' else c)

/-- Puts segments behind others, with the ones that go up or stay resolved. -/
def addSegments : (before : List String) → List (List Char) → List String
  | before, [] => before
  | before, segment :: rest =>
      let here :=
        if isDoubleDot segment then before.dropLast ++ (if rest.isEmpty then [""] else [])
        else if isSingleDot segment then before ++ (if rest.isEmpty then [""] else [])
        else before ++ [String.ofList (escape pathSpecials segment)]
      addSegments here rest

/-- Where the path of an address ends. -/
def endsPath (c : Char) : Bool := c = '?' || c = '#'

/-- Sets the query and the fragment from what stands behind the path. -/
def withTail (url : Url) (tail : List Char) : Url :=
  let fragmentOf (text : List Char) : Option String :=
    match text with
    | '#' :: rest => some (String.ofList (escape fragmentSpecials rest))
    | _ => none
  match tail with
  | '?' :: rest =>
      let query := rest.takeWhile (· ≠ '#')
      { url with
        query := some (String.ofList (escape (querySpecials (isSpecialScheme url.scheme)) query))
        fragment := fragmentOf (rest.drop query.length) }
  | _ => { url with fragment := fragmentOf tail }

/-- Reads a path below given segments, and what stands behind it. -/
def withPath (url : Url) (before : List String) (text : List Char) : Url :=
  let path := text.takeWhile fun c => !endsPath c
  let parts := splitPath (isSpecialScheme url.scheme) path
  withTail { url with path := .segments (addSegments before parts) } (text.drop path.length)

/-- Reads the path behind an authority. -/
def withRootPath (url : Url) (text : List Char) : Url :=
  let special := isSpecialScheme url.scheme
  match text with
  | [] => if special then withPath url [] [] else { url with path := .segments [] }
  | c :: rest =>
      if isSlash special c then withPath url [] rest
      else if special then withPath url [] text
      else if endsPath c then withTail { url with path := .segments [] } text
      else withPath url [] text

/-! ### Authority -/

def forbiddenInHost : List Char :=
  ['\x00', '\t', '\n', '\r', ' ', '#', '/', ':', '<', '>', '?', '@', '[', '\\', ']', '^', '|']

def bracketed? (text : List Char) : Option (Except Fault Host) :=
  match text with
  | '[' :: rest =>
      if rest.getLast? = some ']' then
        match ipv6? rest.dropLast with
        | some pieces => some (.ok (.ipv6 pieces))
        | none => some (.error .badIpv6)
      else some (.error .badIpv6)
  | _ => none

/-- The host of an address of the web. -/
def webHost (text : List Char) : Except Fault Host :=
  match bracketed? text with
  | some result => result
  | none =>
      match Utf8.decode (unescape text) with
      | .error _ => .error .badDomain
      | .ok name =>
          match Domain.ascii? name.toList with
          | none => .error .badDomain
          | some [] => .error .emptyHost
          | some domain =>
              if endsInNumber domain then
                match ipv4? domain with
                | some address => .ok (.ipv4 address)
                | none => .error .badIpv4
              else .ok (.domain (String.ofList domain))

/-- The host of an address whose scheme says nothing about hosts. -/
def plainHost (text : List Char) : Except Fault Host :=
  match bracketed? text with
  | some result => result
  | none =>
      if text.any forbiddenInHost.contains then .error .badHostCharacter
      else .ok (.domain (String.ofList (escape [] text)))

/-- Splits the host from its port; a colon between brackets belongs to the host. -/
def splitHost : (bracket : Bool) → List Char → List Char × List Char
  | _, [] => ([], [])
  | bracket, c :: rest =>
      if c = ':' ∧ !bracket then ([], c :: rest)
      else
        let inside := if c = '[' then true else if c = ']' then false else bracket
        let (host, more) := splitHost inside rest
        (c :: host, more)

/-- A port that is not the one of its scheme. -/
def port (scheme : String) (digits : List Char) : Except Fault (Option Nat) :=
  let number := digits.foldl (fun n c => n * 10 + (c.toNat - 48)) 0
  if digits.isEmpty then .ok none
  else if !digits.all Char.isDigit || 65535 < number then .error .badPort
  else .ok (if defaultPort? scheme = some number then none else some number)

/-- The user name and the password before the host. -/
def credentials (text : List Char) : String × String :=
  let escaped (part : List Char) : String := String.ofList (escape userSpecials part)
  match Text.cutAt ':' text with
  | none => (escaped text, "")
  | some (name, password) => (escaped name, escaped password)

/-- Splits at the last `@`. -/
def splitUser (text : List Char) : Option (List Char × List Char) :=
  match Text.cutAt '@' text.reverse with
  | none => none
  | some (host, user) => some (user.reverse, host.reverse)

/-- Reads what stands behind the two slashes: authority, path, query and fragment. -/
def behindSlashes (scheme : String) (text : List Char) : Except Fault Url := do
  let special := isSpecialScheme scheme
  let part := text.takeWhile fun c => !endsAuthority special c
  let rest := text.drop part.length
  let (user, hostPart) := match splitUser part with
    | some (user, host) => (some user, host)
    | none => (none, part)
  if user.isSome && hostPart.isEmpty && (!rest.isEmpty || special) then throw .emptyHost
  let (name, password) := credentials (user.getD [])
  let (hostText, portText) := splitHost false hostPart
  if special && hostText.isEmpty then throw .emptyHost
  let host ← if special then webHost hostText else plainHost hostText
  if hostText.isEmpty && !portText.isEmpty then throw .emptyHost
  let port ← port scheme (portText.drop 1)
  if hostText.isEmpty && (name ≠ "" || password ≠ "") then throw .emptyHost
  let authority : Authority := { username := name, password, host, port }
  return withRootPath { scheme, authority := some authority, path := .segments [] } rest

/-! ### Whole addresses -/

/-- An address of a file. A host on this machine is left out. -/
def fileUrl (text : List Char) : Except Fault Url := do
  let empty : Url :=
    { scheme := "file", authority := some { host := .domain "" }, path := .segments [] }
  match text with
  | a :: b :: rest =>
      if isSlash true a && isSlash true b then
        let hostText := rest.takeWhile fun c => !endsAuthority true c
        let tail := rest.drop hostText.length
        if hostText.isEmpty then return withRootPath empty tail
        else
          let host ← webHost hostText
          let host := if host = .domain "localhost" then .domain "" else host
          return withRootPath { empty with authority := some { host } } tail
      else return withRootPath empty text
  | _ => return withRootPath empty text

/-- An address relative to another of the same scheme. -/
def relativeUrl (base : Url) (text : List Char) : Except Fault Url :=
  let special := isSpecialScheme base.scheme
  let baseParts := match base.path with
    | .segments parts => parts
    | .verbatim _ => []
  let plain : Url := { base with fragment := none }
  match text with
  | [] => .ok plain
  | '?' :: _ => .ok (withTail { plain with query := none } text)
  | '#' :: _ => .ok (withTail plain text)
  | c :: rest =>
      if c = '/' || c = '\\' then
        let slashes := (text.takeWhile fun d => d = '/' || d = '\\').length
        if 2 ≤ slashes then
          let behind := match text with
            | '/' :: '/' :: more => more
            | _ => text.drop slashes
          behindSlashes base.scheme behind
        else .ok (withPath { plain with query := none } [] rest)
      else if special || !baseParts.isEmpty then
        .ok (withPath { plain with query := none } baseParts.dropLast text)
      else .ok (withPath { plain with query := none } [] text)

/-- Reads an address, where `base` is what a relative one refers to. -/
def parse (base : Option Url) (input : String) : Except Fault Url :=
  let text := clean input
  match scheme? text, base with
  | none, none => .error .relativeWithoutBase
  | none, some base =>
      match base.path, text with
      | _, '#' :: _ => relativeUrl base text
      | .verbatim _, _ => .error .relativeToVerbatim
      | .segments _, _ => relativeUrl base text
  | some ("file", rest), _ => fileUrl rest
  | some (scheme, rest), base =>
      if isSpecialScheme scheme then
        let slashes := rest.takeWhile (isSlash true)
        match base with
        | some base =>
            if slashes.length < 2 ∧ base.scheme = scheme then relativeUrl base rest
            else behindSlashes scheme (rest.drop slashes.length)
        | none => behindSlashes scheme (rest.drop slashes.length)
      else
        match rest with
        | '/' :: '/' :: more => behindSlashes scheme more
        | '/' :: more =>
            .ok (withPath { scheme, authority := none, path := .segments [] } [] more)
        | _ =>
            let path := rest.takeWhile fun c => !endsPath c
            .ok (withTail
              { scheme, authority := none, path := .verbatim (String.ofList (escape [] path)) }
              (rest.drop path.length))

/-- An absolute address. -/
def parseAbsolute (input : String) : Except Fault Url := parse none input

/-- An address relative to a base. -/
def join (base : Url) (input : String) : Except Fault Url := parse (some base) input

end ClusterBundle.Url
