import ClusterBundle.Text.Normal.Table

/-!
Canonical composition: texts that mean the same get the same characters.

A text is taken apart, the marks behind each letter are put into the order of their classes, and
then letters and marks are put together again as far as there are characters for it.
-/

namespace ClusterBundle.Unicode

def combiningClass (code : Nat) : Nat :=
  match combiningClasses.find? fun (low, high, _) => low ≤ code && code ≤ high with
  | some (_, _, value) => value
  | none => 0

/-! ### Syllables of Hangul, which are taken apart by arithmetic -/

def syllableBase : Nat := 0xAC00
def leadBase : Nat := 0x1100
def vowelBase : Nat := 0x1161
def tailBase : Nat := 0x11A7

def isSyllable (code : Nat) : Bool := syllableBase ≤ code && code < syllableBase + 11172

def syllableParts (code : Nat) : List Nat :=
  let index := code - syllableBase
  let tail := index % 28
  [leadBase + index / 588, vowelBase + index % 588 / 28] ++
    (if tail = 0 then [] else [tailBase + tail])

def syllable? (first second : Nat) : Option Nat :=
  if leadBase ≤ first ∧ first < leadBase + 19 ∧ vowelBase ≤ second ∧ second < vowelBase + 21 then
    some (syllableBase + ((first - leadBase) * 21 + (second - vowelBase)) * 28)
  else if isSyllable first ∧ (first - syllableBase) % 28 = 0 ∧ tailBase < second ∧
      second < tailBase + 28 then
    some (first + (second - tailBase))
  else none

/-! ### Taking apart, ordering, putting together -/

/-- What a character is made of, if it is made of others. -/
def parts? (code : Nat) : Option (List Nat) :=
  match dissolvedSingles.lookup code with
  | some part => some [part]
  | none =>
      match (composites ++ dissolvedPairs).lookup code with
      | some (first, second) => some [first, second]
      | none => none

/-- Takes a character apart, down to a depth that no character goes beyond. -/
def takeApart : (depth : Nat) → Nat → List Nat
  | 0, code => [code]
  | depth + 1, code =>
      if code < 0x80 then [code]
      else if isSyllable code then syllableParts code
      else
        match parts? code with
        | some parts => parts.flatMap (takeApart depth)
        | none => [code]

def maxPartDepth : Nat := 5

/-- Puts a mark in front of those of a higher class, in a text that runs backwards. -/
def placeMark (code value : Nat) : List (Nat × Nat) → List (Nat × Nat)
  | [] => [(code, value)]
  | (last, lastValue) :: rest =>
      if value ≠ 0 ∧ value < lastValue then (last, lastValue) :: placeMark code value rest
      else (code, value) :: (last, lastValue) :: rest

/-- Puts marks into the order of their classes. -/
def inOrder (codes : List Nat) : List (Nat × Nat) :=
  (codes.foldl (fun placed code => placeMark code (combiningClass code) placed) []).reverse

/-- The character that two others are put together to. -/
def together? (first second : Nat) : Option Nat :=
  match syllable? first second with
  | some code => some code
  | none => (composites.find? fun (_, a, b) => a = first && b = second).map Prod.fst

/-- Puts characters together. `marks` are those behind the letter `start` that stay, the last one
first, and `value` is the class of the last one. -/
def putTogether : (start : Option Nat) → (marks : List Nat) → (value : Nat) →
    List (Nat × Nat) → List Nat
  | start, marks, _, [] => start.toList ++ marks.reverse
  | none, marks, _, (code, value) :: rest =>
      if value = 0 then marks.reverse ++ putTogether (some code) [] 0 rest
      else putTogether none (code :: marks) value rest
  | some start, marks, last, (code, value) :: rest =>
      let isFree := marks.isEmpty || last < value
      match if isFree then together? start code else none with
      | some both => putTogether (some both) marks last rest
      | none =>
          if value = 0 then start :: (marks.reverse ++ putTogether (some code) [] 0 rest)
          else putTogether (some start) (code :: marks) value rest

/-- The canonical composition of a text. -/
def composed (text : List Char) : List Char :=
  if text.all fun c => c.toNat < 0xC0 then text
  else
    let codes := text.flatMap fun c => takeApart maxPartDepth c.toNat
    (putTogether none [] 0 (inOrder codes)).map Char.ofNat

end ClusterBundle.Unicode
