import ClusterBundle.Cluster.Objects
import ClusterBundle.Collection.Collector
import ClusterBundle.Json.Reader

/-!
Reading answers of a cluster: whether an object exists, documents, and the names of listed objects.
-/

namespace ClusterBundle

namespace Cluster

/-- A document, or the failure to read it under a name. -/
def decodeAs (shape : Json.Shape) (what : String) (answer : Except Failure Bytes) :
    Except Failure Json.Value :=
  match answer with
  | .error failure => .error failure
  | .ok content =>
      (Json.read shape content).mapError fun message => .undecodable what message

/-- The name of an object. -/
def objectName? (object : Json.Value) : Option String :=
  (object.at? ["metadata", "name"]).bind Json.Value.text?

/-- The objects of a listing. -/
def listed (listing : Json.Value) : List Json.Value :=
  match listing.get? "items" with
  | some (.list objects) => objects
  | _ => []

/-- The names of the objects of a listing, in order; objects without a name are left out. -/
def listedNames (listing : Json.Value) : List String :=
  ((listed listing).filterMap objectName?).mergeSort fun a b => decide (a ≤ b)

end Cluster

namespace Collect

open Cluster (Query Failure)

/-- Whether a named object exists. -/
def exists? (kind name : String) (ns : Option String) : Collect (Except Failure Bool) := do
  return Cluster.existence (← ask (.get (Cluster.existenceQuery kind name ns)))

/-- The document of a query. -/
def document (query : Query) : Collect (Except Failure Json.Value) := do
  let answer ← ask (.get (query.formatted .json))
  return Cluster.decodeAs .any s!"{query.kind} {query.targetName}" answer

/-- The names of the objects of a kind that bear a label. -/
def names (kind : String) (shape : Json.Shape) (ns selector : String) :
    Collect (Except Failure (List String)) := do
  let query := ((Query.labeled kind selector).inNamespace ns).formatted .json
  let answer ← ask (.get query)
  return (Cluster.decodeAs (.listing shape) s!"{kind} list -l {selector}" answer).map
    Cluster.listedNames

def podNames (ns selector : String) : Collect (Except Failure (List String)) :=
  names "pod" Cluster.Objects.pod ns selector

def deploymentNames (ns selector : String) : Collect (Except Failure (List String)) :=
  names "deployment" Cluster.Objects.deployment ns selector

end Collect

end ClusterBundle
