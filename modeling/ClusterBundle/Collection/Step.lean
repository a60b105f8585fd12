import ClusterBundle.Cluster.Request
import ClusterBundle.Json.Value

/-!
Steps of a collection: what was done to which object.
-/

namespace ClusterBundle

structure Step where
  action : String
  kind : String
  name : String
  ns : Option String := none
  deriving Repr, DecidableEq

namespace Step

def text (step : Step) : String :=
  let scope := match step.ns with
    | some ns => s!" -n {ns}"
    | none => ""
  s!"{step.action} {step.kind} {step.name}" ++ scope

def json (step : Step) : Json.Value :=
  let scope := match step.ns with
    | some ns => [("namespace", .text ns)]
    | none => []
  .object
    ([("action", .text step.action), ("kind", .text step.kind), ("name", .text step.name)] ++ scope)

open Cluster (Query Container LogSource)

/-- The step of reading objects. -/
def ofQuery (query : Query) : Step :=
  { action := "get", kind := query.kind, name := query.targetName, ns := query.ns }

/-- The step of running a command in a container. -/
def ofCommand (container : Container) (command : List String) : Step :=
  { action := "exec", kind := Text.joinWith " " command, name := container.pod,
    ns := some container.ns }

/-- The step of reading a log. -/
def ofLog (source : LogSource) : Step :=
  { action := "logs", kind := "pod", name := source.description }

/-- The step of fetching what is behind an address. -/
def ofFetch (url : String) : Step := { action := "proxy", kind := "url", name := url }

end Step

end ClusterBundle
