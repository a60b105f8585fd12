import ClusterBundle.Text.Blank
import ClusterBundle.Text.Utf8

/-!
The requests that a run makes of a cluster, and their command lines.

The command line of a request starts with its verb. What selects objects comes before the
namespace, and that before the output format; what is to run inside a container comes last, behind
`--`, so that nothing of it is taken for an option.
-/

namespace ClusterBundle.Cluster

/-- The form in which objects are shown. -/
inductive Format where
  /-- The short table that is shown where no form is asked for. -/
  | table
  | wide
  | yaml
  | json
  | name
  deriving Repr, DecidableEq

def Format.flag? : Format → Option String
  | .table => none
  | .wide => some "wide"
  | .yaml => some "yaml"
  | .json => some "json"
  | .name => some "name"

/-- Which objects of a kind are asked for. -/
inductive Selection where
  | named (name : String)
  | labeled (selector : String)
  | all
  deriving Repr, DecidableEq

/-- One read of objects. -/
structure Query where
  kind : String
  selection : Selection
  /-- The namespace that is looked in; absent for objects that have none. -/
  ns : Option String := none
  format : Format := .yaml
  deriving Repr, DecidableEq

namespace Query

def named (kind name : String) : Query := { kind, selection := .named name }

def labeled (kind selector : String) : Query := { kind, selection := .labeled selector }

def all (kind : String) : Query := { kind, selection := .all }

def inNamespace (query : Query) (ns : String) : Query := { query with ns := some ns }

def formatted (query : Query) (format : Format) : Query := { query with format }

/-- What messages call the objects of a query. -/
def targetName (query : Query) : String :=
  match query.selection with
  | .named name => name
  | .labeled selector => s!"-l {selector}"
  | .all => "*"

def arguments (query : Query) : List String :=
  let selection := match query.selection with
    | .named name => [name, "--ignore-not-found"]
    | .labeled selector => ["-l", selector]
    | .all => []
  let scope := match query.ns with
    | some ns => ["-n", ns]
    | none => []
  let form := match query.format.flag? with
    | some flag => ["-o", flag]
    | none => []
  ["get", query.kind] ++ selection ++ scope ++ form

end Query

/-- A container inside a pod. -/
structure Container where
  ns : String
  pod : String
  name : String
  deriving Repr, DecidableEq

inductive LogSource where
  /-- One container of one pod. -/
  | container (container : Container)
  /-- All containers of a workload such as `deployment/web`. -/
  | workload (ns reference : String)
  deriving Repr, DecidableEq

namespace LogSource

def description : LogSource → String
  | .container c => s!"{c.ns}/{c.pod} ({c.name})"
  | .workload ns reference => s!"{ns}/{reference}"

def arguments : LogSource → List String
  | .container c => ["logs", "-n", c.ns, c.pod, "-c", c.name]
  | .workload ns reference => ["logs", "-n", ns, reference, "--all-containers"]

end LogSource

def Container.execArguments (container : Container) (command : List String) : List String :=
  ["exec", "-n", container.ns, container.pod, "-c", container.name, "--"] ++ command

def tokenArguments (ns account duration : String) : List String :=
  ["create", "token", account, "-n", ns, s!"--duration={duration}"]

/-- Everything that a cluster can be asked for. -/
inductive Call where
  | get (query : Query)
  | exec (container : Container) (command : List String)
  | logs (source : LogSource)
  /-- A token of a service account that lasts for some time. -/
  | token (ns account duration : String)
  /-- The body behind an address of the cluster, trusting only the certificates of a bundle. -/
  | fetch (url token : String) (bundle : Bytes)
  deriving Repr, DecidableEq

/-- The command line of a request; a fetch is not made by a command. -/
def Call.arguments? : Call → Option (List String)
  | .get query => some query.arguments
  | .exec container command => some (container.execArguments command)
  | .logs source => some source.arguments
  | .token ns account duration => some (tokenArguments ns account duration)
  | .fetch .. => none

end ClusterBundle.Cluster
