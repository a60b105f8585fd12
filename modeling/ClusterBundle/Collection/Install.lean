import ClusterBundle.Collection.Listing
import ClusterBundle.Collection.Target

/-!
The second stage: the installation of the operator.

The subscription says which catalog and which install plan the installation comes from; where it
does not, these two are left out. Then come the other objects of the installation, the logs of its
deployments, and a summary in which all of it is appended to one file as wide tables.
-/

namespace ClusterBundle

namespace Install

open Cluster (Query)

/-- The objects that a subscription refers to. -/
structure References where
  catalog : Option String := none
  catalogNamespace : Option String := none
  plan : Option String := none
  deriving Repr, DecidableEq

/-- The references of the first subscription of a list. -/
def references? (list : Json.Value) : Option References :=
  (list.at? ["items", "0"]).map fun subscription =>
    { catalog := subscription.textAt? ["spec", "source"]
      catalogNamespace := subscription.textAt? ["spec", "sourceNamespace"]
      plan := (subscription.textAt? ["status", "installPlanRef", "name"]).or
        (subscription.textAt? ["status", "installplan", "name"]) }

def labeled (target : Target) (kind : String) : Query :=
  (Query.labeled kind target.selector).inNamespace target.ns

def catalogQuery? (target : Target) (references : References) : Option Query :=
  references.catalog.map fun name =>
    (Query.named "catalogsource" name).inNamespace (references.catalogNamespace.getD target.ns)

def planQuery? (target : Target) (references : References) : Option Query :=
  references.plan.map fun name => (Query.named "installplan" name).inNamespace target.ns

/-- The queries of the summary, in order. -/
def summaryQueries (target : Target) (references : References) : List Query :=
  ([catalogQuery? target references, some (labeled target "subscription"),
      planQuery? target references] ++
    (["clusterserviceversion", "deployment", "pod"].map fun kind =>
      some (labeled target kind))).filterMap id

/-- A step on the labeled objects of a kind. -/
def step (target : Target) (action kind : String) : Step :=
  { action, kind, name := s!"-l {target.selector}", ns := some target.ns }

def file (target : Target) (name : String) : String := Path.join target.installDirectory name

/-- The file for the log of a deployment; the only one needs no name of its own. -/
def logFile (deployments : List String) (name : String) : String :=
  if deployments.length = 1 then "operator.log" else s!"{name}.log"

end Install

namespace Collect

open Install (References)

/-- Finds out what the subscription refers to. -/
def installReferences (target : Target) : Collect References := do
  match ← document (Install.labeled target "subscription") with
  | .error failure =>
      noteFailed (Install.step target "read" "subscription") failure.message
      return {}
  | .ok list =>
      match Install.references? list with
      | some references => return references
      | none =>
          noteSkipped (Install.step target "get" "subscription")
            "no subscription matches the operator; catalog source and install plan unknown"
          return {}

/-- Collects the objects of a query if there is one, and tells an observer if not. -/
def getKnown (query : Option Cluster.Query) (output unknown : String) : Collect Unit := do
  match query with
  | some query => discard (get query output)
  | none => emit [.warning unknown []]

/-- Collects the logs of the operator's deployments. -/
def installLogs (target : Target) : Collect Unit := do
  match ← deploymentNames target.ns target.selector with
  | .error failure => noteFailed (Install.step target "list" "deployment") failure.message
  | .ok deployments =>
      if deployments.isEmpty then
        noteSkipped (Install.step target "logs" "deployment") "no operator deployment found"
      else
        deployments.forM fun name =>
          discard (logs (.workload target.ns s!"deployment/{name}")
            (Install.file target (Install.logFile deployments name)))

/-- Empties the summary. -/
def resetSummary (path : String) : Collect Unit := do
  match ← inTree fun bundle tree => bundle.write tree path [] with
  | .ok _ => return
  | .error fault => emit [.warning "Could not reset summary file" [("error", fault.message)]]

/-- Collects the installation of the operator. -/
def install (target : Target) : Collect Unit := do
  emit [.info "Collecting operator info"
    [("stage", "operator"), ("operator", target.operator), ("namespace", target.ns)]]
  let labeled := Install.labeled target
  let file := Install.file target
  discard (get (labeled "subscription") (file "subscription.yaml"))
  let references ← installReferences target
  getKnown (Install.catalogQuery? target references) (file "catalogsource.yaml")
    "Catalog source unknown, skipping"
  getKnown (Install.planQuery? target references) (file "installplan.yaml")
    "Install plan unknown, skipping"
  discard (get (labeled "clusterserviceversion") (file "csv.yaml"))
  discard (get (labeled "deployment") (file "deployment.yaml"))
  discard (get (labeled "pod") (file "pod.yaml"))
  installLogs target
  let summary := file "summary.txt"
  resetSummary summary
  (Install.summaryQueries target references).forM fun query =>
    discard (appendGet (query.formatted .wide) summary)

end Collect

end ClusterBundle
