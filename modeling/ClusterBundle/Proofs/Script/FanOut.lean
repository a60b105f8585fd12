import ClusterBundle.Proofs.Cluster.Listing

/-!
How the exporter is looked into.

The objects of the namespace come first and then the list of the pods. If there is a list, then each
of its pods has its turn: one request for the pod, four commands run in it and one request for its
log, with nothing in between and whatever comes of them. What looking into a pod results in is the
number of its steps that wrote something.
-/

namespace ClusterBundle

open Cluster (Call Container Failure LogSource Query)
open Operation (performAll)

/-- A step that puts what a request is answered with into a file. -/
structure FileStep where
  step : Step
  call : Call
  name : String
  deriving DecidableEq

namespace FileStep

def get (query : Query) (name : String) : FileStep := ⟨.ofQuery query, .get query, name⟩

def exec (container : Container) (command : List String) (name : String) : FileStep :=
  ⟨.ofCommand container command, .exec container command, name⟩

def logs (source : LogSource) (name : String) : FileStep := ⟨.ofLog source, .logs source, name⟩

/-- The operation of a step for a file in a directory. -/
def operation (directory : String) (s : FileStep) : Operation :=
  .collect .replace s.step (Path.join directory s.name) s.call

end FileStep

namespace Exporter

/-! ### Requests and counts -/

/-- The requests for the objects of the namespace. -/
def objectCalls (ns : String) : List Call :=
  [.get { kind := "events", selection := .all, ns := some ns, format := .table },
    .get { kind := "daemonset", selection := .named "kepler-exporter-ds", ns := some ns },
    .get { kind := "configmap", selection := .named "kepler-exporter-cm", ns := some ns },
    .get { kind := "serviceaccount", selection := .named "kepler-exporter-sa", ns := some ns },
    .get { kind := "securitycontextconstraints", selection := .named "kepler-exporter-scc" }]

/-- The steps by which a pod is looked into. -/
def podSteps (ns : String) (set : PodDiagnostics) : List FileStep :=
  let container : Container := { ns, pod := set.pod, name := set.container }
  [.get { kind := "pod", selection := .named set.pod, ns := some ns } "kepler-pod.yaml",
    .exec container ["cpuid", "-1"] "node-cpuid-info",
    .exec container ["env"] "env-variables",
    .exec container ["uname", "-a"] "kernel-info",
    .exec container ["bpftool", "-f", "prog", "show"] "ebpf-info",
    .logs (.container container) "kepler.log"]

def podCalls (ns : String) (set : PodDiagnostics) : List Call := (podSteps ns set).map FileStep.call

/-- A directory is made for the pod, and the rest are its steps. -/
theorem podScript_eq (ns : String) (set : PodDiagnostics) :
    podScript ns set =
      .makeDirectory set.pod set.directory ::
        (podSteps ns set).map (FileStep.operation set.directory) :=
  rfl

theorem objectsScript_calls (ns : String) :
    (objectsScript ns).filterMap Operation.call? = objectCalls ns := rfl

theorem objectsScript_tallied (ns : String) :
    (objectsScript ns).countP Operation.isTallied = 5 := rfl

theorem podScript_calls (ns : String) (set : PodDiagnostics) :
    (podScript ns set).filterMap Operation.call? = podCalls ns set := rfl

theorem podScript_tallied (ns : String) (set : PodDiagnostics) :
    (podScript ns set).countP Operation.isTallied = 6 := rfl

/-- Looking into the pods. -/
def rounds (ns : String) (pods : List String) : List Operation :=
  pods.flatMap fun pod => podScript ns (diagnostics pod)

section

variable {cluster : Cluster} {ns : String}

theorem script_unlisted {failure : Failure} (h : cluster.podNames ns selector = .error failure) :
    script cluster (some ns) = objectsScript ns ++
      [.ask (Cluster.listing "pod" ns selector),
        .fail { action := "list", kind := "pod", name := s!"-l {selector}", ns := some ns }
          failure.message] := by
  simp only [script, podsScript, h]

theorem script_listed {pods : List String} (h : cluster.podNames ns selector = .ok pods) :
    script cluster (some ns) =
      objectsScript ns ++ .ask (Cluster.listing "pod" ns selector) :: rounds ns pods := by
  simp only [script, podsScript, h]
  rfl

end

theorem rounds_calls (ns : String) (pods : List String) :
    (rounds ns pods).filterMap Operation.call? =
      pods.flatMap fun pod => podCalls ns (diagnostics pod) := by
  rw [rounds, List.filterMap_flatMap]
  rfl

theorem rounds_tallied (ns : String) (pods : List String) :
    (rounds ns pods).countP Operation.isTallied = 6 * pods.length := by
  have hpods : pods.map (fun pod =>
      (podScript ns (diagnostics pod)).countP Operation.isTallied) = pods.map fun _ => 6 := rfl
  rw [rounds, List.countP_flatMap, Function.comp_def, hpods, List.map_const',
    List.sum_replicate_nat, Nat.mul_comm]

/-! ### One pod -/

/-- What comes of looking into a pod. -/
structure LooksInto (site : Site) (p : Progress) (ns : String) (set : PodDiagnostics)
    (written : Nat) (q : Progress) : Prop where
  calls : q.calls = p.calls ++ podCalls ns set
  total : q.tally.total = p.tally.total + 6
  /-- The result is what the tally has more of. -/
  tally : q.tally.written = p.tally.written + written
  /-- It counts the steps of the pod. -/
  count : written = ((Operation.trace site p (podScript ns set)).map Prod.snd).count (some .written)

theorem looksInto_pod (site : Site) (p : Progress) (ns : String) (set : PodDiagnostics) :
    LooksInto site p ns set ((Collect.pod ns set).on site p).1
      ((Collect.pod ns set).on site p).2 := by
  obtain ⟨hresult, hsilent⟩ := @Performs.pod site p ns set
  obtain ⟨-, htally, hcalls⟩ := Progress.silent_eq_iff.1 hsilent
  exact
    { calls := by rw [hcalls, Operation.performAll_calls, podScript_calls]
      total := by rw [htally, Operation.performAll_total, podScript_tallied]
      tally := by rw [htally, Operation.performAll_written, hresult]
      count := hresult }

/-! ### All pods -/

/-- What comes of looking into the pods that are listed. -/
inductive Looked (p : Progress) (ns : String) :
    Except Failure (List String) → Progress → Prop where
  | unlisted {failure : Failure} {q : Progress}
      (hcalls : q.calls = p.calls ++ (objectCalls ns ++ [Cluster.listing "pod" ns selector]))
      (htotal : q.tally.total = p.tally.total + 6)
      (hrecord : q.tally.records.getLast? = some
        { step := { action := "list", kind := "pod", name := s!"-l {selector}", ns := some ns }
          outcome := .failed, reason := failure.message }) :
      Looked p ns (.error failure) q
  | listed {pods : List String} {q : Progress}
      (hcalls : q.calls = p.calls ++ (objectCalls ns ++ Cluster.listing "pod" ns selector ::
        pods.flatMap fun pod => podCalls ns (diagnostics pod)))
      (htotal : q.tally.total = p.tally.total + (5 + 6 * pods.length)) :
      Looked p ns (.ok pods) q

theorem looked_exporter (site : Site) (p : Progress) (ns : String) :
    Looked p ns (site.cluster.podNames ns selector)
      ((Collect.exporter (some ns)).on site p).2 := by
  obtain ⟨-, hsilent⟩ := @Performs.exporter site p (some ns)
  obtain ⟨-, htally, hcalls⟩ := Progress.silent_eq_iff.1 hsilent
  have htotal := congrArg Tally.total htally
  rw [Operation.performAll_calls] at hcalls
  rw [Operation.performAll_total] at htotal
  cases hnames : site.cluster.podNames ns selector with
  | error failure =>
      rw [script_unlisted hnames] at hcalls htally htotal
      refine .unlisted hcalls htotal ?_
      rw [htally, Operation.performAll_append]
      exact List.getLast?_concat
  | ok pods =>
      rw [script_listed hnames, List.filterMap_append, objectsScript_calls,
        List.filterMap_cons, rounds_calls] at hcalls
      rw [script_listed hnames, List.countP_append, objectsScript_tallied, List.countP_cons,
        rounds_tallied] at htotal
      exact .listed hcalls htotal

end Exporter

end ClusterBundle
