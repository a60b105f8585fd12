import ClusterBundle.Number.Shortest
import ClusterBundle.Text.Quoted

/-!
JSON values and their two written forms.

The members of an object stand in a list and are written in the order of that list. `insert` keeps
a list of members sorted by key with one member per key, which is how documents are read.
-/

namespace ClusterBundle.Json

/-- Integers are kept exactly; every other number is a double. -/
inductive Number where
  | integer (value : Int)
  | double (value : Binary64)
  deriving Repr, DecidableEq

inductive Value where
  | null
  | bool (value : Bool)
  | number (value : Number)
  | text (value : String)
  | list (items : List Value)
  | object (members : List (String × Value))
  deriving Repr

abbrev Members := List (String × Value)

/-- Puts a member in its place by key; an older member of the same key gives way. -/
def insert (key : String) (value : Value) : Members → Members
  | [] => [(key, value)]
  | (k, v) :: rest =>
      if key < k then (key, value) :: (k, v) :: rest
      else if key = k then (key, value) :: rest
      else (k, v) :: insert key value rest

theorem lookup_insert (key other : String) (value : Value) (members : Members) :
    (insert key value members).lookup other =
      if other = key then some value else members.lookup other := by
  induction members with
  | nil => by_cases h : other = key <;> simp [insert, h, List.lookup_cons, beq_eq_false_iff_ne.2]
  | cons member rest ih =>
      obtain ⟨k, v⟩ := member
      simp only [insert]
      split
      · by_cases h : other = key
        · simp [h]
        · simp [h, List.lookup_cons, beq_eq_false_iff_ne.2 h]
      · split
        · rename_i hk
          subst hk
          by_cases h : other = key
          · simp [h]
          · simp [h, List.lookup_cons, beq_eq_false_iff_ne.2 h]
        · rename_i hk
          by_cases h : other = k
          · subst h
            simp [Ne.symm hk]
          · simp [List.lookup_cons, beq_eq_false_iff_ne.2 h, ih]

namespace Value

/-- The member of an object under a key. -/
def get? (key : String) : Value → Option Value
  | .object members => members.lookup key
  | _ => none

def text? : Value → Option String
  | .text s => some s
  | _ => none

/-- The index that a step of a path stands for: digits without a zero in front. -/
def index? (step : String) : Option Nat :=
  match step.toList with
  | ['0'] => some 0
  | '0' :: _ => none
  | digits =>
      if !digits.isEmpty && digits.all Char.isDigit then
        some (digits.foldl (fun n d => n * 10 + (d.toNat - '0'.toNat)) 0)
      else none

/-- One step into a value: a key of an object or an index of a list. -/
def step? (step : String) : Value → Option Value
  | .object members => members.lookup step
  | .list items => (index? step).bind (items[·]?)
  | _ => none

/-- The value that a path leads to. -/
def at? : List String → Value → Option Value
  | [], v => some v
  | step :: steps, v => (v.step? step).bind (at? steps)

/-- The text that a path leads to, if there is one that is not empty. -/
def textAt? (path : List String) (v : Value) : Option String :=
  ((v.at? path).bind text?).filter (· ≠ "")

end Value

def Number.chars : Number → List Char
  | .integer n => (toString n).toList
  | .double x => x.text.toList

def textChars (s : String) : List Char := (Quoted.json s).toList

mutual

/-- A value on one line without spaces. -/
def Value.compactChars : Value → List Char
  | .null => ['n', 'u', 'l', 'l']
  | .bool true => ['t', 'r', 'u', 'e']
  | .bool false => ['f', 'a', 'l', 's', 'e']
  | .number n => n.chars
  | .text s => textChars s
  | .list [] => ['[', ']']
  | .list (x :: xs) => '[' :: (x.compactChars ++ compactItems xs ++ [']'])
  | .object [] => ['\x7b', '\x7d']
  | .object ((k, v) :: rest) =>
      '\x7b' :: (textChars k ++ ':' :: v.compactChars ++ compactMembers rest ++ ['\x7d'])

/-- The items of a list behind its first, each with the comma before it. -/
def compactItems : List Value → List Char
  | [] => []
  | x :: xs => ',' :: (x.compactChars ++ compactItems xs)

/-- The members of an object behind its first, each with the comma before it. -/
def compactMembers : List (String × Value) → List Char
  | [] => []
  | (k, v) :: rest => ',' :: (textChars k ++ ':' :: v.compactChars ++ compactMembers rest)

end

def Value.compact (v : Value) : String := String.ofList v.compactChars

/-- A line break and the indentation of a depth, two blanks for each level. -/
def newline (depth : Nat) : List Char := '\n' :: List.replicate (2 * depth) ' '

mutual

/-- A value with one item or member per line, indented by its depth. -/
def Value.prettyChars (depth : Nat) : Value → List Char
  | .list (x :: xs) =>
      '[' :: (newline (depth + 1) ++ x.prettyChars (depth + 1) ++ prettyItems depth xs ++
        newline depth ++ [']'])
  | .object ((k, v) :: rest) =>
      '\x7b' :: (newline (depth + 1) ++ textChars k ++ [':', ' '] ++ v.prettyChars (depth + 1) ++
        prettyMembers depth rest ++ newline depth ++ ['\x7d'])
  | .null => ['n', 'u', 'l', 'l']
  | .bool true => ['t', 'r', 'u', 'e']
  | .bool false => ['f', 'a', 'l', 's', 'e']
  | .number n => n.chars
  | .text s => textChars s
  | .list [] => ['[', ']']
  | .object [] => ['\x7b', '\x7d']

def prettyItems (depth : Nat) : List Value → List Char
  | [] => []
  | x :: xs =>
      ',' :: (newline (depth + 1) ++ x.prettyChars (depth + 1) ++ prettyItems depth xs)

def prettyMembers (depth : Nat) : List (String × Value) → List Char
  | [] => []
  | (k, v) :: rest =>
      ',' :: (newline (depth + 1) ++ textChars k ++ [':', ' '] ++ v.prettyChars (depth + 1) ++
        prettyMembers depth rest)

end

def Value.pretty (v : Value) : String := String.ofList (v.prettyChars 0)

end ClusterBundle.Json
