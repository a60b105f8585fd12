import ClusterBundle.Cluster.Failure
import ClusterBundle.Cluster.Request
import ClusterBundle.Log.Event

/-!
A cluster as what it answers.

A cluster gives one answer to each request and keeps no state of its own between them. The events
that making a request causes are part of it, since a client may report how a request went.
-/

namespace ClusterBundle

structure Cluster where
  answer : Cluster.Call → Except Cluster.Failure Bytes
  /-- What an observer is told while a request is made. -/
  notices : Cluster.Call → List Event := fun _ => []

namespace Cluster

/-- The query with which `exists?` asks for an object. -/
def existenceQuery (kind name : String) (ns : Option String) : Query :=
  { kind, selection := .named name, ns, format := .name }

/-- Whether an answer to `existenceQuery` says that the object is there. -/
def existence : Except Failure Bytes → Except Failure Bool
  | .ok output => .ok (!Text.isAllBlank (Utf8.lossy output))
  | .error (.notFound ..) => .ok false
  | .error failure => .error failure

end Cluster

end ClusterBundle
