import ClusterBundle.Collection.Collector
import ClusterBundle.Collection.Target

/-!
The first stage: what the cluster's lifecycle manager knows about the operator, and its logs.
-/

namespace ClusterBundle

namespace Lifecycle

def managerNamespace : String := "openshift-operator-lifecycle-manager"
def marketplaceNamespace : String := "openshift-marketplace"
def directory : String := "olm-info"

/-- The controllers of the lifecycle manager, each with the file for its log. -/
def controllers : List (String × String) :=
  [("deployment/olm-operator", "olm-operator.log"),
    ("deployment/catalog-operator", "catalog-operator.log")]

end Lifecycle

open Cluster (Query LogSource)

/-- Collects the package manifest, the pods of the lifecycle manager and the logs of its
controllers. -/
def Collect.lifecycle (target : Target) : Collect Unit := do
  let file (name : String) : String := Path.join Lifecycle.directory name
  emit [.info "Collecting OLM info" [("stage", "olm")]]
  discard (get ((Query.named "packagemanifest" target.operator).inNamespace
    Lifecycle.marketplaceNamespace) (file "packagemanifest.yaml"))
  discard (get ((Query.all "pod").inNamespace Lifecycle.managerNamespace) (file "olm-pods.yaml"))
  Lifecycle.controllers.forM fun (reference, log) =>
    discard (logs (.workload Lifecycle.managerNamespace reference) (file log))

end ClusterBundle
