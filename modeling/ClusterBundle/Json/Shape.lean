import ClusterBundle.Calendar.Timestamp
import ClusterBundle.Json.Fault
import ClusterBundle.Text.Base64

/-!
The shapes that a JSON value can be asked to have.

A shape is read from the text of a document or held against a value that was read before. Both
ways agree on what a value must be; they differ in the order in which faults come to light and in
whether a fault has a place in the text.
-/

namespace ClusterBundle.Json

inductive Shape where
  /-- Every value. -/
  | any
  /-- Every value, which is passed over and not kept. -/
  | ignored
  | text
  | flag
  | int32
  | int64
  /-- A text that is a point in time. -/
  | time
  /-- A text in base64, or nothing. -/
  | bytes
  /-- A 32-bit integer or a text. -/
  | intOrText
  /-- One text and no other. -/
  | only (expected : String)
  | list (element : Shape)
  /-- An object used as a map from texts. -/
  | map (element : Shape)
  /-- An object with known members, each of which may be missing or null; members of other names
  are passed over. -/
  | record (name : String) (members : List (String × Shape))
  /-- An object whose member `items` is a list, or a list that has that list as its only item. -/
  | listing (element : Shape)
  deriving Repr

/-- How messages name a shape. -/
def Shape.name : Shape → String
  | .any | .ignored => "any valid JSON value"
  | .text | .only _ => "a string"
  | .flag => "a boolean"
  | .int32 => "i32"
  | .int64 => "i64"
  | .time => "an RFC 3339 formatted date and time string"
  | .bytes => "a base64-encoded string"
  | .intOrText => "IntOrString"
  | .list _ => "a sequence"
  | .map _ => "a map"
  | .record name _ => name
  | .listing _ => "struct ItemList"

/-- Whether a text may stand for a shape that is written as a text. -/
def Shape.checkText (shape : Shape) (s : String) : Except Problem Unit :=
  match shape with
  | .time => (Calendar.Timestamp.check s).mapError fun fault => .badText fault.message
  | .bytes =>
      match Base64.decode (Utf8.encode s) with
      | .ok _ => .ok ()
      | .error fault => .error (.badText fault.message)
  | _ => .ok ()

def fitsInt32 (n : Int) : Bool := -2147483648 ≤ n && n ≤ 2147483647

def fitsInt64 (n : Int) : Bool := -9223372036854775808 ≤ n && n ≤ 9223372036854775807

/-- Whether a number may stand for a shape. -/
def Shape.checkNumber (shape : Shape) (n : Number) : Except Problem Unit :=
  match shape, n with
  | .int32, .integer k => if fitsInt32 k then .ok () else .error (.wrongValue (.integer k) "i32")
  | .int64, .integer k => if fitsInt64 k then .ok () else .error (.wrongValue (.integer k) "i64")
  | .intOrText, .integer k =>
      if fitsInt32 k then .ok () else .error (.wrongValue (.integer k) "a 32-bit integer")
  | .any, _ | .ignored, _ => .ok ()
  | _, _ => .error (.wrongType (.ofNumber n) shape.name)

end ClusterBundle.Json
