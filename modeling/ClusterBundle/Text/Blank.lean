/-!
White space in the sense of Unicode, and trimming by it.
-/

namespace ClusterBundle

/-- The characters with the Unicode property `White_Space`. -/
def isBlank (c : Char) : Bool :=
  let code := c.toNat
  (9 ≤ code && code ≤ 13) || code == 0x20 || code == 0x85 || code == 0xA0 || code == 0x1680 ||
    (0x2000 ≤ code && code ≤ 0x200A) || code == 0x2028 || code == 0x2029 || code == 0x202F ||
    code == 0x205F || code == 0x3000

namespace Text

def dropBlank (text : List Char) : List Char := text.dropWhile isBlank

/-- A text without the white space at its two ends. -/
def trimChars (text : List Char) : List Char :=
  (dropBlank (dropBlank text).reverse).reverse

def trim (text : String) : String := String.ofList (trimChars text.toList)

def isAllBlank (text : String) : Bool := text.toList.all isBlank

/-- Whether `needle` occurs in `text`. -/
def contains (needle : List Char) : List Char → Bool
  | [] => needle.isEmpty
  | c :: rest => needle.isPrefixOf (c :: rest) || contains needle rest

/-- Whether a text holds another one. -/
def holds (text needle : String) : Bool := contains needle.toList text.toList

/-- Joins texts with a mark between neighbours. -/
def joinWith (mark : String) : List String → String
  | [] => ""
  | [text] => text
  | text :: rest => text ++ mark ++ joinWith mark rest

/-- Splits at every occurrence of a character; the parts are one more than the occurrences. -/
def splitChars (mark : Char) : List Char → List (List Char)
  | [] => [[]]
  | c :: rest =>
      match splitChars mark rest with
      | [] => [[c]]
      | part :: parts => if c = mark then [] :: part :: parts else (c :: part) :: parts

theorem splitChars_ne_nil (mark : Char) (text : List Char) : splitChars mark text ≠ [] := by
  cases text with
  | nil => simp [splitChars]
  | cons c rest =>
      simp only [splitChars]
      split
      · simp
      · split <;> simp

/-- A text is split at a mark in it, whatever the text behind the mark is. -/
theorem splitChars_append_cons (mark : Char) (before behind : List Char) :
    splitChars mark (before ++ mark :: behind) =
      splitChars mark before ++ splitChars mark behind := by
  induction before with
  | nil =>
      cases h : splitChars mark behind with
      | nil => exact absurd h (splitChars_ne_nil mark behind)
      | cons part parts => simp [splitChars, h]
  | cons c rest ih =>
      simp only [List.cons_append, splitChars, ih]
      cases h : splitChars mark rest with
      | nil => exact absurd h (splitChars_ne_nil mark rest)
      | cons part parts => by_cases hc : c = mark <;> simp [hc]

def split (mark : Char) (text : String) : List String :=
  (splitChars mark text.toList).map String.ofList

/-- The text before the first occurrence of a character and the text behind it. -/
def cutAt (mark : Char) : List Char → Option (List Char × List Char)
  | [] => none
  | c :: rest =>
      if c = mark then some ([], rest)
      else (cutAt mark rest).map fun (before, after) => (c :: before, after)

def isPrefixOf (start text : String) : Bool := start.toList.isPrefixOf text.toList

/-- Upper-case letters of ASCII made lower-case. -/
def lower (text : String) : String := String.ofList (text.toList.map Char.toLower)

end Text

end ClusterBundle
