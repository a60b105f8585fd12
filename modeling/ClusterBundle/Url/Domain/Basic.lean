import ClusterBundle.Text.Blank
import ClusterBundle.Text.Normal.Basic
import ClusterBundle.Url.Domain.Mapping
import ClusterBundle.Url.Domain.Property
import ClusterBundle.Url.Domain.Punycode

/-!
Domain names in their ASCII form.

The characters of a name are mapped and composed, and then each label between two points is looked
at: it begins with no mark, letters are joined only where they can be, and labels written from right
to left follow the rules for them. A label that is not ASCII is spelled in ASCII behind `xn--`, and
a label spelled so has to be the spelling of a label that would be spelled so.
-/

namespace ClusterBundle.Url.Domain

/-- The characters that no domain name has, besides controls. -/
def refused : List Char := [' ', '%', '#', '/', ':', '<', '>', '?', '@', '[', '\\', ']', '^', '|']

def isRefused (c : Char) : Bool := c.toNat < 0x20 || c.toNat = 0x7F || refused.contains c

def isAscii (c : Char) : Bool := c.toNat < 0x80

/-- What starts a label that is spelled in ASCII. -/
def spelledMark : List Char := ['x', 'n', '-', '-']

/-- The image of a name under the mapping of characters, if they are all allowed. -/
def mapName? (name : List Char) : Option (List Char) :=
  (name.mapM fun c =>
    match mapped c with
    | .kept => some [c]
    | .replaced image => some image
    | .disallowed => none).map List.flatten

/-! ### Labels -/

def virama : Nat := 9

/-- Whether a letter stands before, marks passed over, that joins with what comes behind. The text
before runs backwards. -/
def isJoined (before behind : List Char) : Bool :=
  let joins (test : Char → Bool) (text : List Char) : Bool :=
    match text.dropWhile isTransparent with
    | c :: _ => test c
    | [] => false
  joins joinsBehind before && joins joinsBefore behind

/-- Whether the joiners of a label stand where they may. -/
def joinersAllowed : (before : List Char) → List Char → Bool
  | _, [] => true
  | before, c :: rest =>
      let afterVirama := match before with
        | p :: _ => Unicode.combiningClass p.toNat = virama
        | [] => false
      let allowed :=
        if c = '\u200D' then afterVirama
        else if c = '\u200C' then afterVirama || isJoined before rest
        else true
      allowed && joinersAllowed (c :: before) rest

/-- Whether a label may stand in a name, apart from its direction. -/
def isLabel (label : List Char) : Bool :=
  match label with
  | [] => true
  | c :: _ => !isMark c && joinersAllowed [] label

def isRightToLeft (d : Direction) : Bool :=
  d = .right || d = .arabicLetter || d = .arabicNumber

/-- Whether a label follows the rules for names with text from right to left. -/
def isDirected (label : List Char) : Bool :=
  let directions := label.map direction
  let last := (directions.reverse.dropWhile (· = .nonspacing)).head?
  match directions with
  | [] => true
  | .left :: _ =>
      directions.all (fun d => !isRightToLeft d) &&
        (last = some .left || last = some .europeanNumber)
  | .right :: _ | .arabicLetter :: _ =>
      !directions.contains .left &&
        (last = some .right || last = some .arabicLetter || last = some .europeanNumber ||
          last = some .arabicNumber) &&
        !(directions.contains .europeanNumber && directions.contains .arabicNumber)
  | _ => false

/-- The label that a label of a mapped name means. -/
def meaning? (label : List Char) : Option (List Char) :=
  if spelledMark.isPrefixOf label then
    match Punycode.decode? (label.drop spelledMark.length) with
    | none => none
    | some meant =>
        if !meant.all isAscii && (meant.all fun c => mapped c = .kept && c ≠ '.') &&
            Unicode.composed meant = meant then some meant
        else none
  else some label

/-- The ASCII spelling of a label. -/
def spelling (label : List Char) : List Char :=
  if label.all isAscii then label else spelledMark ++ Punycode.encode label

/-- Whether a label claims to be the spelling of another. -/
def isSpelled (label : List Char) : Bool := spelledMark.isPrefixOf (label.map Char.toLower)

/-- The ASCII form of a name that is not plainly one. -/
def asciiForm? (name : List Char) : Option (List Char) := do
  let composed := Unicode.composed (← mapName? name)
  if composed.any isRefused then none
  else
    let labels ← (Text.splitChars '.' composed).mapM meaning?
    if !labels.all isLabel then none
    else
      let isMixed := labels.any fun label => label.any fun c => isRightToLeft (direction c)
      if isMixed && !labels.all isDirected then none
      else some (List.intercalate ['.'] (labels.map spelling))

/-- The ASCII form of a domain name. -/
def ascii? (name : List Char) : Option (List Char) :=
  if name.all isAscii && !(Text.splitChars '.' name).any isSpelled then
    if name.any isRefused then none else some (name.map Char.toLower)
  else asciiForm? name

end ClusterBundle.Url.Domain
