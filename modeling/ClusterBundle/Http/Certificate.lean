import ClusterBundle.Text.Base64

/-!
Bundles of certificates: text with sections in base64, of which those named `CERTIFICATE` count.

A bundle is refused for a section that does not end, that is opened badly or that is not base64,
and for a certificate that does not have the structure of one. What stands outside of sections, and
sections of other names, are passed over.
-/

namespace ClusterBundle.Http.Certificate

inductive Fault where
  /-- The text of the bundle is not in order. -/
  | badSection
  /-- A section is no certificate. -/
  | badCertificate
  deriving Repr, DecidableEq

def Fault.message : Fault → String
  | .badSection => "invalid certificate encoding"
  | .badCertificate => "invalid peer certificate: BadEncoding"

/-! ### Sections -/

/-- Lines with their line ends; a carriage return ends a line as a line feed does. -/
def lines : Bytes → List Bytes
  | [] => []
  | b :: rest =>
      if b = 10 || b = 13 then [b] :: lines rest
      else
        match lines rest with
        | [] => [[b]]
        | line :: more => (b :: line) :: more

def dash : UInt8 := 45

/-- A line without the blanks at its end. -/
def trimEnd (line : Bytes) : Bytes :=
  (line.reverse.dropWhile fun b => b = 10 || b = 13 || b = 32).reverse

def beginMark : Bytes := Utf8.encode "-----BEGIN "

def endMark (name : Bytes) : Bytes := Utf8.encode "-----END " ++ name ++ List.replicate 5 dash

/-- The name in a line that opens a section, which five dashes have to end. -/
def sectionName? (line : Bytes) : Option Bytes :=
  let reversed := line.reverse.dropWhile fun b => b = 10 || b = 13 || b = 32
  let dashes := reversed.takeWhile (· = dash)
  if dashes.length = 5 then some ((reversed.drop 5).reverse.drop beginMark.length) else none

def certificateName : Bytes := Utf8.encode "CERTIFICATE"

/-- The contents of the sections that hold certificates. `opened` is the name of the section that
is being read, with the symbols of it so far. -/
def sections (opened : Option (Bytes × Bytes)) : List Bytes → Except Fault (List Bytes)
  | [] => if opened.isSome then .error .badSection else .ok []
  | line :: rest =>
      if beginMark.isPrefixOf line then
        match sectionName? line with
        | none => .error .badSection
        | some name => sections (some (name, (opened.map Prod.snd).getD [])) rest
      else
        match opened with
        | none => sections none rest
        | some (name, symbols) =>
            if (endMark name).isPrefixOf line then
              match Base64.decode symbols with
              | .error _ => .error .badSection
              | .ok content =>
                  if name = certificateName then
                    (sections none rest).map fun more => content :: more
                  else sections none rest
            else sections (some (name, symbols ++ trimEnd line)) rest

/-! ### Structure of a certificate -/

/-- The length of a part, from the bytes that give it, and the bytes behind them. -/
def partLength? : Bytes → Option (Nat × Bytes)
  | [] => none
  | b :: rest =>
      if b < 128 then some (b.toNat, rest)
      else
        let count := b.toNat - 128
        if count = 0 || 4 < count || rest.length < count then none
        else
          let length := (rest.take count).foldl (fun n d => n * 256 + d.toNat) 0
          if length < 128 || length < 1 <<< (8 * (count - 1)) then none
          else some (length, rest.drop count)

/-- The tag of a part, its content and what stands behind it. -/
def part? : Bytes → Option (UInt8 × Bytes × Bytes)
  | [] => none
  | tag :: rest =>
      match partLength? rest with
      | none => none
      | some (length, body) =>
          if body.length < length then none
          else some (tag, body.take length, body.drop length)

/-- Cuts a content into its parts. -/
def parts? : (fuel : Nat) → Bytes → Option (List (UInt8 × Bytes))
  | _, [] => some []
  | 0, _ => none
  | fuel + 1, bytes =>
      match part? bytes with
      | none => none
      | some (tag, content, rest) => (parts? fuel rest).map fun more => (tag, content) :: more

def sequenceTag : UInt8 := 0x30

/-- The tags of what is certified: version, serial number, algorithm, issuer, validity, subject and
key, and behind them the extensions or nothing. -/
def bodyTags : List UInt8 := [0xA0, 0x02, 0x30, 0x30, 0x30, 0x30, 0x30]

def isBody (content : Bytes) : Bool :=
  match parts? content.length content with
  | none => false
  | some parts =>
      let tags := parts.map Prod.fst
      tags = bodyTags || tags = bodyTags ++ [0xA3]

/-- Whether bytes have the structure of a certificate: what is certified, the algorithm of the
signature and the signature. -/
def isCertificate (bytes : Bytes) : Bool :=
  match part? bytes with
  | some (tag, content, []) =>
      tag = sequenceTag &&
        match parts? content.length content with
        | some [(0x30, body), (0x30, _), (0x03, _)] => isBody body
        | _ => false
  | _ => false

/-- Whether a bundle can be used, and if not, why. -/
def check (bundle : Bytes) : Except Fault Unit :=
  match sections none (lines bundle) with
  | .error fault => .error fault
  | .ok certificates =>
      if certificates.all isCertificate then .ok () else .error .badCertificate

end ClusterBundle.Http.Certificate
