/-!
Events of a run that an observer is told about, in the order in which they happen.
-/

namespace ClusterBundle

inductive Level where
  | info
  | warning
  deriving Repr, DecidableEq

/-- What happened, with named details. -/
structure Event where
  level : Level
  message : String
  fields : List (String × String)
  deriving Repr, DecidableEq

namespace Event

def info (message : String) (fields : List (String × String)) : Event := ⟨.info, message, fields⟩

def warning (message : String) (fields : List (String × String)) : Event :=
  ⟨.warning, message, fields⟩

end Event

end ClusterBundle
