import ClusterBundle.Text.Unicode

/-!
Texts between double quotes, in two spellings.

`Quoted.json` is the string syntax of JSON: the quote, the backslash and the controls below
U+0020 are escaped and everything else stands for itself. `Quoted.shown` is the form in which
messages show a text that came from outside: there every character that would not print, or that
would merge with its neighbour, is replaced by its number.
-/

namespace ClusterBundle.Quoted

def hexDigits (n : Nat) : List Char := Nat.toDigits 16 n

/-- The four-digit form of a control character in JSON. -/
def controlEscape (c : Char) : List Char :=
  let digits := hexDigits c.toNat
  '\\' :: 'u' :: (List.replicate (4 - digits.length) '0' ++ digits)

/-- One character between the quotes of a JSON string. -/
def jsonChar (c : Char) : List Char :=
  if c = '"' then ['\\', '"']
  else if c = '\\' then ['\\', '\\']
  else if c = '\x08' then ['\\', 'b']
  else if c = '\t' then ['\\', 't']
  else if c = '\n' then ['\\', 'n']
  else if c = '\x0c' then ['\\', 'f']
  else if c = '\r' then ['\\', 'r']
  else if c.toNat < 0x20 then controlEscape c
  else [c]

/-- A text as a JSON string. -/
def json (text : String) : String :=
  String.ofList ('"' :: (text.toList.flatMap jsonChar ++ ['"']))

/-- One character of a text shown in a message. -/
def shownChar (c : Char) : List Char :=
  if c = '"' then ['\\', '"']
  else if c = '\\' then ['\\', '\\']
  else if c = '\t' then ['\\', 't']
  else if c = '\n' then ['\\', 'n']
  else if c = '\r' then ['\\', 'r']
  else if c.toNat = 0 then ['\\', '0']
  else if Unicode.isExtender c || !Unicode.isPrintable c then
    ['\\', 'u', '\x7b'] ++ hexDigits c.toNat ++ ['\x7d']
  else [c]

/-- A text as messages show it. -/
def shown (text : String) : String :=
  String.ofList ('"' :: (text.toList.flatMap shownChar ++ ['"']))

end ClusterBundle.Quoted
