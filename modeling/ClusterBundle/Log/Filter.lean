import ClusterBundle.Log.Event
import ClusterBundle.Text.Blank

/-!
Which events are written to the log.

A filter is a list of directives, each a verbosity for the events of an origin or for all of them.
Of the directives that concern an event the one that names its origin most closely decides; an
event that no directive concerns is not written.
-/

namespace ClusterBundle.Log

/-- How much is written, from nothing to everything. -/
abbrev Verbosity := Nat

/-- The verbosity from which on events of a level are written. -/
def needed : Level → Verbosity
  | .warning => 2
  | .info => 3

structure Directive where
  /-- The beginning of the names of the origins that are concerned. -/
  origin : String := ""
  verbosity : Verbosity
  deriving Repr, DecidableEq

abbrev Filter := List Directive

def verbosity? (text : String) : Option Verbosity :=
  match Text.lower text with
  | "off" | "0" => some 0
  | "error" | "1" => some 1
  | "warn" | "2" => some 2
  | "info" | "3" => some 3
  | "debug" | "4" => some 4
  | "trace" | "5" => some 5
  | _ => none

def isOriginChar (c : Char) : Bool := c.isAlphanum || c = '_' || c = ':' || c = '-' || c = '.'

/-- Reads one directive: a verbosity, an origin, or an origin with a verbosity. -/
def directive? (text : String) : Option Directive :=
  match Text.cutAt '=' text.toList with
  | none =>
      match verbosity? text with
      | some verbosity => some { verbosity }
      | none =>
          if text.toList.all isOriginChar then some { origin := text, verbosity := 5 } else none
  | some (origin, level) =>
      match verbosity? (String.ofList level) with
      | some verbosity =>
          if origin.all isOriginChar then some { origin := String.ofList origin, verbosity }
          else none
      | none => none

/-- Only errors are written where nothing else is said. -/
def sparse : Filter := [{ verbosity := 1 }]

def standard : Filter := [{ verbosity := 3 }]

/-- The filter that a text asks for; the standard one if there is none or it cannot be read. -/
def filter (text : Option String) : Filter :=
  match text with
  | none => standard
  | some text =>
      let parts := (Text.split ',' text).filter (· ≠ "")
      if parts.isEmpty then sparse
      else (parts.mapM directive?).getD standard

/-- The directive that decides about an origin. -/
def deciding (filter : Filter) (origin : String) : Option Directive :=
  (filter.filter fun d => Text.isPrefixOf d.origin origin).foldl
    (fun best d =>
      match best with
      | none => some d
      | some b => if b.origin.length ≤ d.origin.length then some d else some b)
    none

/-- Whether an event of an origin is written. -/
def writes (filter : Filter) (origin : String) (level : Level) : Bool :=
  match deciding filter origin with
  | some d => needed level ≤ d.verbosity
  | none => false

/-- An event as a line of the log. -/
def line (event : Event) : String :=
  let level := match event.level with
    | .info => " INFO"
    | .warning => " WARN"
  let details := event.fields.map fun (name, value) => s!" {name}={value}"
  level ++ " " ++ event.message ++ Text.joinWith "" details ++ "\n"

/-- The lines of the events that are written. -/
def lines (filter : Filter) (origin : String) (events : List Event) : String :=
  Text.joinWith ""
    ((events.filter fun event => writes filter origin event.level).map line)

end ClusterBundle.Log
