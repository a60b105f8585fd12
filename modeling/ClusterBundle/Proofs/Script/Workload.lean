import ClusterBundle.Collection.Instances
import ClusterBundle.Proofs.Script.Install

/-!
The custom resources and the exporter as lists of operations.

Whether the user-facing resources are looked at depends on what became of the internal ones, so
the script of the third stage is a function of that. From there on only answers decide: which
namespace the exporter runs in, and which pods it has.
-/

namespace ClusterBundle

open Cluster (Call Failure Query Container)

/-! ### The custom resources -/

namespace Instances

/-- The request for the name of the internal resource. -/
def existenceCall : Call := .get (Cluster.existenceQuery internalKind internalName none)

/-- The request for the internal resource as a document. -/
def documentCall : Call := .get ((Query.named internalKind internalName).formatted .json)

/-- Whether a cluster says that there is an internal resource. -/
def exists? (cluster : Cluster) : Except Failure Bool :=
  Cluster.existence (cluster.answer existenceCall)

/-- The namespace that a cluster says the workload runs in. -/
def foundNamespace (cluster : Cluster) (settings : Settings) : Except Failure (Option String) :=
  match exists? cluster with
  | .error failure => .error failure
  | .ok false => .ok none
  | .ok true =>
      match cluster.document (Query.named internalKind internalName) with
      | .error failure => .error failure
      | .ok resource =>
          .ok (some ((resource.textAt? namespaceField).getD settings.workloadNamespace))

/-- The requests by which the namespace is found. -/
def namespaceReads (cluster : Cluster) : List Operation :=
  .ask existenceCall ::
    match exists? cluster with
    | .ok true => [.ask documentCall]
    | _ => []

/-- Collecting the internal resources. -/
def internals : Operation := .get (Query.all internalKind) "kepler-internals.yaml"

/-- Collecting the user-facing resources. -/
def resources : Operation := .get (Query.all kind) "keplers.yaml"

/-- What is tallied about looking for the namespace: nothing if the cluster answers. -/
def namespaceNote (cluster : Cluster) (settings : Settings) : List Operation :=
  match foundNamespace cluster settings with
  | .ok _ => []
  | .error failure =>
      [.fail { action := "discover", kind := internalKind, name := internalName }
        failure.message]

/-- What the third stage does, given whether the internal resources could be collected. -/
def script (cluster : Cluster) (settings : Settings) (collected : Bool) : List Operation :=
  internals ::
    if collected then
      resources :: (namespaceReads cluster ++ namespaceNote cluster settings)
    else [.skip { action := "get", kind := kind, name := "*" } "internal resources unavailable"]

/-- What the third stage finds, given whether the internal resources could be collected. -/
def namespace? (cluster : Cluster) (settings : Settings) (collected : Bool) : Option String :=
  if collected then
    match foundNamespace cluster settings with
    | .ok ns => ns
    | .error _ => none
  else none

/-- Whether the internal resources can be collected. -/
def areCollected (site : Site) (p : Progress) : Bool :=
  internals.outcome? site p = some .written

end Instances

namespace Performs

variable {site : Site} {p : Progress}

theorem workloadNamespace (settings : Settings) :
    Performs site p (Collect.workloadNamespace settings)
      (Instances.foundNamespace site.cluster settings)
      (Instances.namespaceReads site.cluster) := by
  refine .asking Instances.existenceCall (Instances.exists? site.cluster) rfl ?_
  unfold Instances.foundNamespace
  cases Instances.exists? site.cluster with
  | error failure => exact .pure _
  | ok found =>
      cases found with
      | false => exact .tell_bind fun q _ => .pure _
      | true =>
          refine .asking Instances.documentCall
            (site.cluster.document (Query.named Instances.internalKind Instances.internalName))
            rfl ?_
          cases site.cluster.document
              (Query.named Instances.internalKind Instances.internalName) with
          | error failure => exact .pure _
          | ok resource => exact .tell_bind fun q _ => .pure _

theorem instances (settings : Settings) :
    Performs site p (Collect.instances settings)
      (Instances.namespace? site.cluster settings (Instances.areCollected site p))
      (Instances.script site.cluster settings (Instances.areCollected site p)) := by
  refine .tell_bind fun q hq => ?_
  have hgate : Instances.areCollected site p =
      decide ((Instances.internals.outcome? site q) = some .written) := by
    simp only [Instances.areCollected, Operation.outcome?_silent hq]
  rw [hgate]
  refine .step (a := ((Collect.get (Query.all Instances.internalKind)
    "kepler-internals.yaml").on site q).1) rfl ?_
  have houtcome : Instances.internals.outcome? site q = some
      ((Collect.get (Query.all Instances.internalKind) "kepler-internals.yaml").on site q).1 := rfl
  rw [houtcome]
  by_cases hwritten :
      ((Collect.get (Query.all Instances.internalKind) "kepler-internals.yaml").on site q).1 =
        .written
  · simp only [hwritten, ne_eq, not_true_eq_false, if_false, decide_true, if_true,
      Instances.namespace?]
    refine .step rfl ?_
    refine .append (workloadNamespace settings) fun q _ => ?_
    unfold Instances.namespaceNote
    cases Instances.foundNamespace site.cluster settings with
    | ok ns => exact .pure _
    | error failure => exact .step rfl (.pure _)
  · simp only [hwritten, ne_eq, not_false_eq_true, if_true, Option.some.injEq, decide_false,
      Bool.false_eq_true, if_false, Instances.namespace?]
    exact .tell_bind fun q _ => .step rfl (.pure _)

end Performs

/-! ### The exporter -/

namespace Exporter

/-- Looking into one pod. -/
def podScript (ns : String) (set : PodDiagnostics) : List Operation :=
  .makeDirectory set.pod set.directory ::
    .get ((Query.named "pod" set.pod).inNamespace ns) (Path.join set.directory "kepler-pod.yaml") ::
      ((commands.map fun (command, name) =>
          .exec { ns, pod := set.pod, name := set.container } command
            (Path.join set.directory name)) ++
        [.logs (.container { ns, pod := set.pod, name := set.container })
          (Path.join set.directory "kepler.log")])

/-- The objects of the namespace. -/
def objectsScript (ns : String) : List Operation :=
  .get (((Query.all "events").inNamespace ns).formatted .table) (eventsFile ns) ::
    ((objects.flatMap fun (kind, name, file) =>
        [.get ((Query.named kind name).inNamespace ns) file]) ++
      [.get (Query.named "securitycontextconstraints" "kepler-exporter-scc") "kepler-scc.yaml"])

/-- The pods, as far as they are known. -/
def podsScript (cluster : Cluster) (ns : String) : List Operation :=
  match cluster.podNames ns selector with
  | .error failure =>
      [.fail { action := "list", kind := "pod", name := s!"-l {selector}", ns := some ns }
        failure.message]
  | .ok pods => pods.flatMap fun pod => podScript ns (diagnostics pod)

/-- What the fourth stage does. -/
def script (cluster : Cluster) : Option String → List Operation
  | none => []
  | some ns =>
      objectsScript ns ++ (.ask (Cluster.listing "pod" ns selector) :: podsScript cluster ns)

end Exporter

namespace Performs

variable {site : Site} {p : Progress}

/-- Looking into a pod, with the making of its directory apart. -/
theorem on_pod (ns : String) (set : Exporter.PodDiagnostics) :
    (Collect.pod ns set).on site p =
      Collect.on (do
        Collect.podDirectory set.pod set.directory
        let object ← Collect.get ((Query.named "pod" set.pod).inNamespace ns)
          (Path.join set.directory "kepler-pod.yaml")
        let outputs ← Exporter.commands.mapM fun (command, name) =>
          Collect.exec { ns, pod := set.pod, name := set.container } command
            (Path.join set.directory name)
        let log ← Collect.logs (.container { ns, pod := set.pod, name := set.container })
          (Path.join set.directory "kepler.log")
        return (object :: outputs ++ [log]).count Outcome.written) site p := by
  simp only [Collect.pod, Collect.podDirectory, Collect.on_bind, Collect.on_inTree]
  cases (site.bundle.createDirectory p.tree set.directory).1 <;> rfl

/-- Looking into a pod counts the steps that wrote something. -/
theorem pod (ns : String) (set : Exporter.PodDiagnostics) :
    Performs site p (Collect.pod ns set)
      (((Operation.trace site p (Exporter.podScript ns set)).map Prod.snd).count (some .written))
      (Exporter.podScript ns set) := by
  refine .of_on (on_pod ns set) ?_
  let query := (Query.named "pod" set.pod).inNamespace ns
  let container : Container := { ns, pod := set.pod, name := set.container }
  let file := Path.join set.directory
  let probes := Exporter.commands.map fun (command, name) =>
    Operation.exec container command (file name)
  let made := (Operation.makeDirectory set.pod set.directory).perform site p
  let seen := (Operation.get query (file "kepler-pod.yaml")).perform site made
  let object := ((Collect.get query (file "kepler-pod.yaml")).on site made).1
  let log := ((Collect.logs (.container container) (file "kepler.log")).on site
    (Operation.performAll site seen probes)).1
  obtain ⟨outputs, houtputs, htrace⟩ := @mapM site seen _ Exporter.commands
    (fun (command, name) => Collect.exec container command (file name))
    (fun (command, name) => .exec container command (file name))
    fun _ _ _ => ⟨rfl, rfl⟩
  -- the directory is not tallied, so the outcomes are those of the six steps behind it
  have houtcomes : (Operation.trace site p (Exporter.podScript ns set)).map Prod.snd =
      none :: ((object :: outputs ++ [log]).map some) := by
    have hprobes : (Operation.trace site seen probes).map Prod.snd = outputs.map some := htrace
    simp only [Exporter.podScript, Operation.trace, Operation.trace_append, List.map_cons,
      List.map_append]
    rw [hprobes]
    rfl
  have hcount : ((Operation.trace site p (Exporter.podScript ns set)).map Prod.snd).count
      (some .written) = (object :: outputs ++ [log]).count .written := by
    rw [houtcomes, List.count_cons_of_ne (by simp), List.count, List.countP_map]
    exact List.countP_congr fun outcome _ => by simp
  rw [hcount]
  refine .step (a := ()) rfl (.step (a := object) rfl (.append houtputs fun r hr => ?_))
  have hlog :
      (Operation.logs (.container container) (file "kepler.log")).outcome? site r = some log :=
    Operation.outcome?_silent hr _
  exact .step (a := log) (Prod.ext (Option.some.inj hlog) rfl) (.pure _)

theorem exporterObjects (ns : String) {rest : Collect Unit} {ops : List Operation}
    (hrest : ∀ q, Performs site q rest () ops) :
    Performs site p
      (do
        discard (Collect.get (((Query.all "events").inNamespace ns).formatted .table)
          (Exporter.eventsFile ns))
        Exporter.objects.forM fun (kind, name, file) =>
          discard (Collect.get ((Query.named kind name).inNamespace ns) file)
        discard (Collect.get (Query.named "securitycontextconstraints" "kepler-exporter-scc")
          "kepler-scc.yaml")
        rest) ()
      (Exporter.objectsScript ns ++ ops) := by
  unfold Exporter.objectsScript
  rw [List.cons_append, List.append_assoc]
  refine .step rfl ?_
  refine .append (.forM fun _ _ _ => .single rfl) fun q _ => ?_
  exact .step rfl (hrest _)

theorem exporter (workloadNamespace : Option String) :
    Performs site p (Collect.exporter workloadNamespace) ()
      (Exporter.script site.cluster workloadNamespace) := by
  cases workloadNamespace with
  | none => exact .tell _
  | some ns =>
      refine .tell_bind fun q _ => exporterObjects ns fun q => ?_
      refine .asking (Cluster.listing "pod" ns Exporter.selector)
        (site.cluster.podNames ns Exporter.selector) rfl ?_
      unfold Exporter.podsScript
      cases site.cluster.podNames ns Exporter.selector with
      | error failure => exact .single rfl
      | ok pods =>
          refine .tell_bind fun q _ => ?_
          exact .forM fun name _ _ =>
            .then_quietly (pod ns (Exporter.diagnostics name)) fun _ => .tell _

end Performs

end ClusterBundle
