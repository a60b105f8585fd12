/-!
Coloured text for a terminal, and the marks in front of messages.

Colour puts escape sequences around a text and changes nothing else about it.
-/

namespace ClusterBundle.Console

inductive Colour where
  | red
  | green
  | yellow
  | blue
  deriving Repr, DecidableEq

def Colour.code : Colour → String
  | .red => "31"
  | .green => "32"
  | .yellow => "33"
  | .blue => "34"

structure Style where
  colour : Colour
  bold : Bool := false
  deriving Repr, DecidableEq

/-- The escape sequence that switches a style on. -/
def Style.start (style : Style) : String :=
  "\x1b[" ++ (if style.bold then "1;" else "") ++ style.colour.code ++ "m"

/-- The escape sequence that switches every style off. -/
def styleEnd : String := "\x1b[0m"

/-- A text in a style, if colours are wanted. -/
def paint (colours : Bool) (style : Style) (text : String) : String :=
  if colours then style.start ++ text ++ styleEnd else text

/-- Kinds of messages. -/
inductive Tone where
  | success
  | error
  | warning
  | info
  deriving Repr, DecidableEq

def Tone.mark : Tone → String
  | .success => "✓"
  | .error => "✗"
  | .warning => "⚠"
  | .info => "ℹ"

def Tone.colour : Tone → Colour
  | .success => .green
  | .error => .red
  | .warning => .yellow
  | .info => .blue

/-- What is printed, by channel. -/
structure Printed where
  stdout : String := ""
  stderr : String := ""
  deriving Repr, DecidableEq

/-- One printout behind another. -/
def Printed.append (a b : Printed) : Printed := ⟨a.stdout ++ b.stdout, a.stderr ++ b.stderr⟩

instance : Append Printed := ⟨Printed.append⟩

/-- A line on the ordinary channel. -/
def line (text : String) : Printed := { stdout := text ++ "\n" }

/-- A message with its mark. Errors go to the channel for errors. -/
def message (colours : Bool) (tone : Tone) (text : String) : Printed :=
  let line := paint colours { colour := tone.colour, bold := true } tone.mark ++ " " ++ text ++ "\n"
  if tone = .error then { stderr := line } else { stdout := line }

end ClusterBundle.Console
