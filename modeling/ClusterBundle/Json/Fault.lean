import ClusterBundle.Json.Value
import ClusterBundle.Text.Utf8

/-!
What can be wrong with a JSON document, and how it is told.

A problem is a breach of the grammar or a value that does not have the wanted shape. Its place in
the document is a line, counted from one, and a column, the bytes before it on that line.
-/

namespace ClusterBundle.Json

/-- What was found where something else was wanted. -/
inductive Found where
  | null
  | bool (value : Bool)
  | integer (value : Int)
  | double (value : Binary64)
  | text (value : String)
  | list
  | object
  deriving Repr, DecidableEq

def Found.message : Found → String
  | .null => "null"
  | .bool true => "boolean `true`"
  | .bool false => "boolean `false`"
  | .integer n => s!"integer `{n}`"
  | .double x => s!"floating point `{x.text}`"
  | .text s => s!"string {Quoted.shown s}"
  | .list => "sequence"
  | .object => "map"

def Found.ofNumber : Number → Found
  | .integer n => .integer n
  | .double x => .double x

def Found.ofValue : Value → Found
  | .null => .null
  | .bool b => .bool b
  | .number n => .ofNumber n
  | .text s => .text s
  | .list _ => .list
  | .object _ => .object

inductive Problem where
  | endInValue
  | endInList
  | endInObject
  | endInString
  | expectedColon
  | expectedCommaInList
  | expectedCommaInObject
  | expectedWord
  | expectedValue
  | badEscape
  | badNumber
  | numberTooLarge
  | badCodePoint
  | controlCharacter
  | keyNotText
  | loneSurrogate
  | trailingComma
  | trailingCharacters
  | unpairedEscape
  | tooDeep
  | wrongType (found : Found) (expected : String)
  | wrongValue (found : Found) (expected : String)
  | repeatedMember (name : String)
  /-- A text that does not have the wanted form, with the reason. -/
  | badText (reason : String)
  deriving Repr, DecidableEq

def Problem.message : Problem → String
  | .endInValue => "EOF while parsing a value"
  | .endInList => "EOF while parsing a list"
  | .endInObject => "EOF while parsing an object"
  | .endInString => "EOF while parsing a string"
  | .expectedColon => "expected `:`"
  | .expectedCommaInList => "expected `,` or `]`"
  | .expectedCommaInObject => "expected `,` or `\x7d`"
  | .expectedWord => "expected ident"
  | .expectedValue => "expected value"
  | .badEscape => "invalid escape"
  | .badNumber => "invalid number"
  | .numberTooLarge => "number out of range"
  | .badCodePoint => "invalid unicode code point"
  | .controlCharacter => "control character (\\u0000-\\u001F) found while parsing a string"
  | .keyNotText => "key must be a string"
  | .loneSurrogate => "lone leading surrogate in hex escape"
  | .trailingComma => "trailing comma"
  | .trailingCharacters => "trailing characters"
  | .unpairedEscape => "unexpected end of hex escape"
  | .tooDeep => "recursion limit exceeded"
  | .wrongType found expected => s!"invalid type: {found.message}, expected {expected}"
  | .wrongValue found expected => s!"invalid value: {found.message}, expected {expected}"
  | .repeatedMember name => s!"duplicate field `{name}`"
  | .badText reason => reason

/-- A problem and the number of bytes before its place in the document. -/
structure Flaw where
  problem : Problem
  index : Nat
  deriving Repr, DecidableEq

def newlineByte : UInt8 := 10

/-- The line of an index and its column. -/
def position (document : Bytes) (index : Nat) : Nat × Nat :=
  let before := document.take index
  (before.count newlineByte + 1, (before.reverse.takeWhile (· ≠ newlineByte)).length)

def Flaw.message (document : Bytes) (flaw : Flaw) : String :=
  let (line, column) := position document flaw.index
  s!"{flaw.problem.message} at line {line} column {column}"

end ClusterBundle.Json
