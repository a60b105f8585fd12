import ClusterBundle.Collection.Listing

/-!
The fourth stage: the exporter, which is the operator's workload.

The objects of its namespace come first, and then for each of its pods a directory with the pod
itself, the output of four commands run in it, and its log.
-/

namespace ClusterBundle

namespace Exporter

def selector : String := "app.kubernetes.io/component=exporter,app.kubernetes.io/part-of=kepler"
def containerName : String := "kepler-exporter"
def directory : String := "kepler-info"

def eventsFile (ns : String) : String := s!"{ns}_events"

/-- The objects of the workload in its namespace: kind, name and file. -/
def objects : List (String × String × String) :=
  [("daemonset", "kepler-exporter-ds", "kepler-ds.yaml"),
    ("configmap", "kepler-exporter-cm", "kepler-cm.yaml"),
    ("serviceaccount", "kepler-exporter-sa", "kepler-sa.yaml")]

/-- The commands that are run in each pod, with the files for their output. -/
def commands : List (List String × String) :=
  [(["cpuid", "-1"], "node-cpuid-info"),
    (["env"], "env-variables"),
    (["uname", "-a"], "kernel-info"),
    (["bpftool", "-f", "prog", "show"], "ebpf-info")]

/-- A pod that is looked into and the directory for what is found. -/
structure PodDiagnostics where
  pod : String
  container : String
  directory : String
  deriving Repr, DecidableEq

/-- The diagnostics of a pod of the exporter. -/
def diagnostics (pod : String) : PodDiagnostics :=
  { pod, container := containerName, directory := Path.join directory pod }

end Exporter

namespace Collect

open Cluster (Query Container)
open Exporter (PodDiagnostics)

/-- Looks into one pod. The result says how many of the six steps wrote something. -/
def pod (ns : String) (set : PodDiagnostics) : Collect Nat := do
  match ← inTree fun bundle tree => bundle.createDirectory tree set.directory with
  | .ok _ => pure ()
  | .error fault =>
      emit [.warning "Could not create pod directory"
        [("pod", set.pod), ("error", fault.message)]]
  let file (name : String) : String := Path.join set.directory name
  let container : Container := { ns, pod := set.pod, name := set.container }
  let object ← get ((Query.named "pod" set.pod).inNamespace ns) (file "kepler-pod.yaml")
  let outputs ← Exporter.commands.mapM fun (command, name) => exec container command (file name)
  let log ← logs (.container container) (file "kepler.log")
  return (object :: outputs ++ [log]).count .written

/-- Looks into the exporter, if its namespace is known. -/
def exporter (workloadNamespace : Option String) : Collect Unit := do
  match workloadNamespace with
  | none =>
      emit [.info "Workload namespace unresolved, skipping workload diagnostics"
        [("stage", "workload")]]
  | some ns =>
      emit [.info "Collecting workload diagnostics" [("stage", "workload"), ("namespace", ns)]]
      discard (get (((Query.all "events").inNamespace ns).formatted .table)
        (Exporter.eventsFile ns))
      Exporter.objects.forM fun (kind, name, file) =>
        discard (get ((Query.named kind name).inNamespace ns) file)
      discard (get (Query.named "securitycontextconstraints" "kepler-exporter-scc")
        "kepler-scc.yaml")
      match ← podNames ns Exporter.selector with
      | .error failure =>
          noteFailed
            { action := "list", kind := "pod", name := s!"-l {Exporter.selector}", ns := some ns }
            failure.message
      | .ok pods =>
          emit [.info "Discovered exporter pods"
            [("namespace", ns), ("count", toString pods.length)]]
          pods.forM fun name => do
            let written ← pod ns (Exporter.diagnostics name)
            emit [.info "Finished pod diagnostics"
              [("pod", name), ("written", toString written)]]

end Collect

end ClusterBundle
