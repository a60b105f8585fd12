import ClusterBundle.File.Fault

/-!
The ways in which a request to a cluster fails.

That an object is absent is a failure of its own kind, because it says something about the cluster
and not about the request.
-/

namespace ClusterBundle.Cluster

inductive Failure where
  /-- There is no such object, or no such kind of object. -/
  | notFound (kind name : String) (ns : Option String)
  /-- The command ran and reported a failure. -/
  | commandFailed (command status stderr : String)
  /-- The command could not be started. -/
  | notStarted (command : String) (fault : IoFault)
  /-- A fetch failed. -/
  | fetchFailed (url message : String)
  /-- An answer does not have the form it should have. -/
  | undecodable (what message : String)
  /-- An object lacks a value that is needed. -/
  | missingField (kind name field : String)
  deriving Repr, DecidableEq

namespace Failure

def message : Failure → String
  | .notFound kind name (some ns) => s!"{kind} {name} not found in namespace {ns}"
  | .notFound kind name none => s!"{kind} {name} not found"
  | .commandFailed command status stderr => s!"`{command}` exited with {status}: {stderr}"
  | .notStarted command fault => s!"failed to execute `{command}`: {fault.message}"
  | .fetchFailed url message => s!"request to {url} failed: {message}"
  | .undecodable what message => s!"failed to decode {what}: {message}"
  | .missingField kind name field => s!"{kind} {name} has no field {field}"

/-- The texts of the faults that a failure comes from. -/
def sources : Failure → List String
  | .notStarted _ fault => [fault.message]
  | _ => []

def isNotFound : Failure → Bool
  | .notFound .. => true
  | _ => false

end Failure

end ClusterBundle.Cluster
