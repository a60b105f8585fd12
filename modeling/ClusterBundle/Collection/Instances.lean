import ClusterBundle.Collection.Listing
import ClusterBundle.Settings

/-!
The third stage: the custom resources of the operator, and the namespace that its workload runs in.

The internal resources come first. Only if they could be collected are the others looked at, and
the namespace is read from the internal resource.
-/

namespace ClusterBundle

namespace Instances

def internalKind : String := "keplerinternals.kepler.system.sustainable.computing.io"
def internalName : String := "kepler"
def kind : String := "keplers.kepler.system.sustainable.computing.io"

/-- Where the internal resource names the namespace of the workload. -/
def namespaceField : List String := ["spec", "exporter", "deployment", "namespace"]

end Instances

namespace Collect

open Cluster (Query Failure)

/-- The namespace that the workload runs in; absent if the internal resource is. -/
def workloadNamespace (settings : Settings) : Collect (Except Failure (Option String)) := do
  match ← exists? Instances.internalKind Instances.internalName none with
  | .error failure => return .error failure
  | .ok false =>
      emit [.info "Internal resource absent, workload namespace unresolved"
        [("kind", Instances.internalKind), ("name", Instances.internalName)]]
      return .ok none
  | .ok true =>
      match ← document (Query.named Instances.internalKind Instances.internalName) with
      | .error failure => return .error failure
      | .ok resource =>
          let ns := (resource.textAt? Instances.namespaceField).getD settings.workloadNamespace
          emit [.info "Resolved workload namespace" [("namespace", ns)]]
          return .ok (some ns)

/-- Collects the custom resources; the result is the namespace of the workload, if it is known. -/
def instances (settings : Settings) : Collect (Option String) := do
  emit [.info "Collecting custom resource instances" [("stage", "instances")]]
  let internals ← get (Query.all Instances.internalKind) "kepler-internals.yaml"
  if internals ≠ .written then
    emit [.warning "Internal resources unavailable, skipping instance collection"
      [("kind", Instances.internalKind)]]
    noteSkipped { action := "get", kind := Instances.kind, name := "*" }
      "internal resources unavailable"
    return none
  discard (get (Query.all Instances.kind) "keplers.yaml")
  match ← workloadNamespace settings with
  | .ok ns => return ns
  | .error failure =>
      noteFailed
        { action := "discover", kind := Instances.internalKind, name := Instances.internalName }
        failure.message
      return none

end Collect

end ClusterBundle
