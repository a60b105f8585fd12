import ClusterBundle.Json.Cursor
import ClusterBundle.Json.Shape

/-!
Reading a JSON document as a value of a given shape.

The document is read once from left to right, and the first fault is reported, be it one of the
grammar or a value of the wrong shape. Brackets nest 127 deep at most, which is also what bounds
the recursion: a reader at one depth calls only the reader of the next.
-/

namespace ClusterBundle.Json

namespace Reader

/-- Fails for a value that has the wrong type: a scalar is read first, a bracket is not. -/
def failType {α : Type} (expected : String) : Reader α := do
  let wrong (found : Found) : Reader α := failHere (.wrongType found expected)
  match ← peek with
  | none => failNext .endInValue
  | some b =>
      if b = byte 'n' then skip; restOfNull; wrong .null
      else if b = byte 't' then skip; restOfTrue; wrong (.bool true)
      else if b = byte 'f' then skip; restOfFalse; wrong (.bool false)
      else if b = byte '-' || isDigit b then wrong (.ofNumber (← signedNumber))
      else if b = byte '"' then skip; wrong (.text (← string))
      else if b = byte '[' then wrong .list
      else if b = byte '\x7b' then wrong .object
      else failNext .expectedValue

/-- Reads the closing bracket of a list. -/
def closeList : Reader Unit := do
  match ← peekToken with
  | none => failNext .endInList
  | some b =>
      if b = byte ']' then skip
      else if b = byte ',' then
        skip
        match ← peekToken with
        | some b => if b = byte ']' then failNext .trailingComma else failNext .trailingCharacters
        | none => failNext .trailingCharacters
      else failNext .trailingCharacters

/-- Reads the closing bracket of an object. -/
def closeObject : Reader Unit := do
  match ← peekToken with
  | none => failNext .endInObject
  | some b =>
      if b = byte '\x7d' then skip
      else if b = byte ',' then failNext .trailingComma
      else failNext .trailingCharacters

/-- Fails with a problem that concerns all of a list, once its end has been tried. -/
def failInList {α : Type} (problem : Problem) : Reader α := do
  let b ← peekToken
  if b = some (byte ']') then skip
  else if b = some (byte ',') then
    skip
    discard peekToken
  failHere problem

/-- Fails with a problem that concerns all of an object, once its end has been tried. -/
def failInObject {α : Type} (problem : Problem) : Reader α := do
  if (← peekToken) = some (byte '\x7d') then skip
  failHere problem

/-- Whether another item follows in a list; then the cursor stands before it. -/
def hasItem (first : Bool) : Reader Bool := do
  match ← peekToken with
  | none => failNext .endInList
  | some b =>
      if b = byte ']' then return false
      else if first then return true
      else if b = byte ',' then
        skip
        match ← peekToken with
        | none => failNext .endInValue
        | some b => if b = byte ']' then failNext .trailingComma else return true
      else failNext .expectedCommaInList

/-- The key of the next member of an object, if there is one. -/
def nextKey (first : Bool) : Reader (Option String) := do
  let key (b : Option UInt8) : Reader (Option String) := do
    match b with
    | none => failNext .endInValue
    | some b =>
        if b = byte '"' then
          skip
          return some (← string)
        else if b = byte '\x7d' then failNext .trailingComma
        else failNext .keyNotText
  match ← peekToken with
  | none => failNext .endInObject
  | some b =>
      if b = byte '\x7d' then return none
      else if first then key (some b)
      else if b = byte ',' then
        skip
        key (← peekToken)
      else failNext .expectedCommaInObject

def colon : Reader Unit := do
  match ← peekToken with
  | none => failNext .endInObject
  | some b => if b = byte ':' then skip else failNext .expectedColon

/-- The items of a list behind its opening bracket. -/
def items (item : Reader Value) : (fuel : Nat) → (first : Bool) → Reader (List Value)
  | 0, _ => return []
  | fuel + 1, first => do
      if ← hasItem first then
        let x ← item
        return x :: (← items item fuel false)
      else return []

/-- The members of an object behind its opening bracket. A later member of the same key counts. -/
def members (member : String → Members → Reader Members) :
    (fuel : Nat) → (first : Bool) → Members → Reader Members
  | 0, _, seen => return seen
  | fuel + 1, first, seen => do
      match ← nextKey first with
      | none => return seen
      | some key => members member fuel false (← member key seen)

/-- Reads null, or else what `inner` reads. -/
def nullable (inner : Reader Value) : Reader Value := do
  if (← peekToken) = some (byte 'n') then
    skip
    restOfNull
    return .null
  else inner

/-- Steps over an opening bracket and reads what it encloses with the reader of the next depth. -/
def enclosed {α : Type} (inner : Option (Shape → Reader Value))
    (content : (Shape → Reader Value) → Reader α) : Reader α := do
  match inner with
  | none => failNext .tooDeep
  | some read =>
      skip
      content read

def listOf (read : Shape → Reader Value) (element : Shape) : Reader Value := do
  let xs ← items (read element) ((← left) + 1) true
  closeList
  return .list xs

def mapOf (read : Shape → Reader Value) (element : Shape) : Reader Value := do
  let member (key : String) (seen : Members) : Reader Members := do
    colon
    return insert key (← read element) seen
  let found ← members member ((← left) + 1) true []
  closeObject
  return .object found

/-- The value of one member of a record. -/
def recordMember (read : Shape → Reader Value) (shapes : List (String × Shape)) (key : String)
    (seen : Members) : Reader Members := do
  colon
  match shapes.lookup key with
  | none =>
      discard (read .ignored)
      return seen
  | some (.only expected) =>
      let v ← read .text
      if v.text? = some expected then return insert key v seen
      else failInObject (.wrongValue (.ofValue v) expected)
  | some shape => return insert key (← nullable (read shape)) seen

def recordOf (read : Shape → Reader Value) (shapes : List (String × Shape)) : Reader Value := do
  let found ← members (recordMember read shapes) ((← left) + 1) true []
  closeObject
  return .object found

/-- The member `items` of a listing; other members are passed over. -/
def listingMember (read : Shape → Reader Value) (element : Shape) (key : String)
    (seen : Members) : Reader Members := do
  if key = "items" then
    if (seen.lookup key).isSome then failInObject (.repeatedMember key)
    colon
    return insert key (← read (.list element)) seen
  else
    colon
    discard (read .ignored)
    return seen

def listingOf (read : Shape → Reader Value) (element : Shape) : Reader Value := do
  let found ← members (listingMember read element) ((← left) + 1) true []
  closeObject
  return .object found

/-- A listing written as a list. -/
def listingOfList (read : Shape → Reader Value) (element : Shape) : Reader Value := do
  if ← hasItem true then
    let xs ← read (.list element)
    closeList
    return .object [("items", xs)]
  else
    closeList
    return .object []

/-- A text that meets the demands of a shape. -/
def textOf (shape : Shape) : Reader Value := do
  skip
  let s ← string
  match shape.checkText s with
  | .ok () => return .text s
  | .error problem => failHere problem

def numberOf (shape : Shape) : Reader Value := do
  let n ← signedNumber
  match shape.checkNumber n with
  | .ok () => return .number n
  | .error problem => failHere problem

def startsNumber (b : UInt8) : Bool := b = byte '-' || isDigit b

/-- A value of every kind. -/
def anyValue (inner : Option (Shape → Reader Value)) (b : UInt8) : Reader Value := do
  if b = byte 'n' then skip; restOfNull; return .null
  else if b = byte 't' then skip; restOfTrue; return .bool true
  else if b = byte 'f' then skip; restOfFalse; return .bool false
  else if startsNumber b then numberOf .any
  else if b = byte '"' then textOf .any
  else if b = byte '[' then enclosed inner fun read => listOf read .any
  else if b = byte '\x7b' then enclosed inner fun read => mapOf read .any
  else failNext .expectedValue

def intOrText (inner : Option (Shape → Reader Value)) (b : UInt8) : Reader Value := do
  let shape := Shape.intOrText
  if startsNumber b then numberOf shape
  else if b = byte '"' then textOf shape
  else if b = byte '[' then
    enclosed inner fun _ => failInList (.wrongType .list shape.name)
  else if b = byte '\x7b' then
    enclosed inner fun _ => failInObject (.wrongType .object shape.name)
  else failType shape.name

/-- A value of a shape, with the reader of the next depth for what it encloses. -/
def valueWith (inner : Option (Shape → Reader Value)) (shape : Shape) : Reader Value := do
  match shape with
  | .ignored =>
      ignore
      return .null
  | _ => pure ()
  match ← peekToken with
  | none => failNext .endInValue
  | some b =>
      let isList := b = byte '['
      let isObject := b = byte '\x7b'
      match shape with
      | .any | .ignored => anyValue inner b
      | .intOrText => intOrText inner b
      | .text | .time | .only _ =>
          if b = byte '"' then textOf shape else failType shape.name
      | .bytes =>
          nullable (if b = byte '"' then textOf shape else failType shape.name)
      | .flag =>
          if b = byte 't' || b = byte 'f' then anyValue none b else failType shape.name
      | .int32 | .int64 =>
          if startsNumber b then numberOf shape else failType shape.name
      | .list element =>
          if isList then enclosed inner fun read => listOf read element else failType shape.name
      | .map element =>
          if isObject then enclosed inner fun read => mapOf read element else failType shape.name
      | .record name shapes =>
          if isObject then enclosed inner fun read => recordOf read shapes
          else if isList then enclosed inner fun _ => failInList (.wrongType .list name)
          else failType name
      | .listing element =>
          if isObject then enclosed inner fun read => listingOf read element
          else if isList then enclosed inner fun read => listingOfList read element
          else failType shape.name

/-- A value of a shape inside which brackets may nest `depth` deep. -/
def value : (depth : Nat) → Shape → Reader Value
  | 0 => valueWith none
  | depth + 1 => valueWith (some (value depth))

/-- How deep brackets may nest in a document. -/
def maxDepth : Nat := 127

/-- All of a document: one value and white space. -/
def document (shape : Shape) : Reader Value := do
  let v ← value maxDepth shape
  match ← peekToken with
  | some _ => failNext .trailingCharacters
  | none => return v

end Reader

/-- Reads a document, or says what is wrong with it and where. -/
def read (shape : Shape) (bytes : Bytes) : Except String Value :=
  match (Reader.document shape).run ⟨bytes, 0⟩ with
  | .ok (v, _) => .ok v
  | .error flaw => .error (flaw.message bytes)

/-! ### A value that was read before, held against a shape -/

mutual

/-- Holds a value against a shape. -/
def conform (shape : Shape) (v : Value) : Except Problem Value :=
  match shape, v with
  | .any, v | .ignored, v => .ok v
  | .bytes, .null => .ok .null
  | .text, .text s | .time, .text s | .only _, .text s | .bytes, .text s | .intOrText, .text s =>
      (shape.checkText s).map fun () => .text s
  | .flag, .bool b => .ok (.bool b)
  | shape, .number n => (shape.checkNumber n).map fun () => .number n
  | .list element, .list xs => (conformItems element xs).map .list
  | .map element, .object members => (conformMembers element members).map .object
  | .record _ shapes, .object members => (conformRecord shapes members).map .object
  | shape, v => .error (.wrongType (.ofValue v) shape.name)

def conformItems (element : Shape) : List Value → Except Problem (List Value)
  | [] => .ok []
  | x :: xs => do
      let x ← conform element x
      let xs ← conformItems element xs
      return x :: xs

def conformMembers (element : Shape) : List (String × Value) → Except Problem Members
  | [] => .ok []
  | (key, x) :: rest => do
      let x ← conform element x
      let rest ← conformMembers element rest
      return (key, x) :: rest

/-- Holds the members of an object against those of a record, in the order of the object. -/
def conformRecord (shapes : List (String × Shape)) :
    List (String × Value) → Except Problem Members
  | [] => .ok []
  | (key, x) :: rest => do
      match shapes.lookup key, x with
      | none, _ => conformRecord shapes rest
      | some (.only expected), x =>
          match conform .text x with
          | .error problem => .error problem
          | .ok v =>
              if v.text? = some expected then
                return (key, v) :: (← conformRecord shapes rest)
              else .error (.wrongValue (.ofValue v) expected)
      | some _, .null => return (key, .null) :: (← conformRecord shapes rest)
      | some shape, x =>
          let v ← conform shape x
          return (key, v) :: (← conformRecord shapes rest)

end

end ClusterBundle.Json
