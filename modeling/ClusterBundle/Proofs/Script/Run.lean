import ClusterBundle.Proofs.Script.Monitoring
import ClusterBundle.Proofs.Script.Workload
import ClusterBundle.Run.Basic

/-!
A whole run as a list of operations.

The scripts of the stages are put together in the order in which a run goes through them. What a
stage needs to know about the bundle is what the operations before it left there, so each part is
a function of the cluster, the target, the settings and the tree that the run starts with.
`run_eq` says that a run finds what is computed here and does what its script does.
-/

namespace ClusterBundle

namespace Run

section

variable (cluster : Cluster) (target : Target) (settings : Settings) (tree : File.Tree)

def site : Site := { cluster, bundle := target.bundle }

/-- What the first two stages do. -/
def opening : List Operation := Lifecycle.script target ++ Install.script cluster target

/-- Whether the internal resources can be collected when their turn comes. -/
def internalsCollected : Bool :=
  Instances.areCollected (site cluster target)
    (Operation.performAll (site cluster target) { tree } (opening cluster target))

/-- The namespace of the workload that a run finds. -/
def workloadNamespace : Option String :=
  Instances.namespace? cluster settings (internalsCollected cluster target tree)

/-- What the stages before monitoring do. -/
def preparation : List Operation :=
  opening cluster target ++
    (Instances.script cluster settings (internalsCollected cluster target tree) ++
      Exporter.script cluster (workloadNamespace cluster target settings tree))

/-- How far a run has come when it turns to monitoring. -/
def prepared : Progress :=
  Operation.performAll (site cluster target) { tree } (preparation cluster target settings tree)

/-- How saving the certificates comes out. -/
def certificatesSaved (certificates : String) : Option Outcome :=
  (Monitoring.saving settings certificates).outcome? (site cluster target)
    (Operation.performAll (site cluster target) (prepared cluster target settings tree)
      (Monitoring.reads cluster settings))

/-- The access to monitoring, or why there is none. -/
def access : Except Monitoring.Fault Monitoring.Access :=
  Monitoring.access cluster settings (certificatesSaved cluster target settings tree)

/-- The step that is tallied as skipped if monitoring cannot be reached. -/
def monitoringStep : Step :=
  { action := "collect", kind := "monitoring", name := Monitoring.directory }

/-- The tree when the access is known. -/
def accessTree : File.Tree :=
  (Operation.performAll (site cluster target) (prepared cluster target settings tree)
    (Monitoring.accessScript cluster settings)).tree

/-- What the last stage does if monitoring can be reached, and what is tallied if not. -/
def closing : List Operation :=
  match access cluster target settings tree with
  | .ok access =>
      Monitoring.script target.bundle (accessTree cluster target settings tree) access settings
  | .error fault => [.skip monitoringStep fault.message]

/-- Everything that a run does. -/
def script : List Operation :=
  preparation cluster target settings tree ++
    (Monitoring.accessScript cluster settings ++ closing cluster target settings tree)

/-- The phases of a run, which hang on whether monitoring can be reached. -/
def phases (reached : Bool) : List Phase :=
  [.start, .lifecycle, .install, .instances, .exporter, .monitoringAccess] ++
    [if reached then .monitoring else .monitoringSkipped, .done]

/-- What a run finds. -/
def findings : Findings :=
  { phases := phases (access cluster target settings tree).toBool
    workloadNamespace := workloadNamespace cluster target settings tree
    monitoringCollected := (access cluster target settings tree).toBool }

/-- Everything that a run does, with how it came out. -/
def trace : List (Operation × Option Outcome) :=
  Operation.trace (site cluster target) { tree } (script cluster target settings tree)

end

variable {cluster : Cluster} {target : Target} {settings : Settings} {tree : File.Tree}

theorem performs_monitoringAccess {q : Progress}
    (hq : q.silent = (prepared cluster target settings tree).silent) :
    Performs (site cluster target) q (Collect.monitoringAccess settings).run
      (access cluster target settings tree) (Monitoring.accessScript cluster settings) := by
  have hsaved : (fun certificates => (Monitoring.saving settings certificates).outcome?
      (site cluster target) (Operation.performAll (site cluster target) q
        (Monitoring.reads cluster settings))) =
      certificatesSaved cluster target settings tree := by
    funext certificates
    exact Operation.outcome?_silent (Operation.performAll_silent hq _) _
  unfold access
  rw [← hsaved]
  exact Performs.monitoringAccess settings

theorem performs_monitoring {q : Progress}
    (hq : q.silent = (prepared cluster target settings tree).silent) :
    Performs (site cluster target) q (monitoring settings)
      ((access cluster target settings tree).toBool,
        [.monitoringAccess, if (access cluster target settings tree).toBool then .monitoring
          else .monitoringSkipped])
      (Monitoring.accessScript cluster settings ++ closing cluster target settings tree) := by
  refine .tell_bind fun r hr => ?_
  refine .append (performs_monitoringAccess (hr.trans hq)) fun s hs => ?_
  unfold closing
  cases haccess : access cluster target settings tree with
  | ok access =>
      refine .tell_bind fun t ht => ?_
      -- the rules are fetched with what can be read of the bundle at this point
      have htree : t.tree = accessTree cluster target settings tree := by
        have hall := hs.trans (Operation.performAll_silent (hr.trans hq) _)
        exact (Progress.silent_eq_iff.1 (ht.trans hall)).1
      rw [← htree]
      exact .then_quietly (Performs.monitoring access settings) fun _ => .pure _
  | error fault =>
      refine .tell_bind fun t _ => .step rfl ?_
      exact .tell_bind fun _ _ => .pure _

/-- The stages before monitoring. The result is the namespace of the workload. -/
def beforeMonitoring (target : Target) (settings : Settings) : Collect (Option String) := do
  Collect.emit [.info "Starting must-gather"
    [("operator", target.operator), ("namespace", target.ns),
      ("destination", target.destination)]]
  enter .lifecycle
  Collect.lifecycle target
  enter .install
  Collect.install target
  enter .instances
  let workloadNamespace ← Collect.instances settings
  enter .exporter
  Collect.exporter workloadNamespace
  return workloadNamespace

/-- Monitoring and the end of a run, with what was found before. -/
def fromMonitoring (settings : Settings) (workloadNamespace : Option String) :
    Collect Findings := do
  let (monitoringCollected, last) ← monitoring settings
  enter .done
  let tally := (← getThe Progress).tally
  Collect.emit [.info "Must-gather finished"
    [("written", toString tally.written), ("skipped", toString tally.skipped),
      ("failed", toString tally.failed)]]
  return {
    phases := [.start, .lifecycle, .install, .instances, .exporter] ++ last ++ [.done]
    workloadNamespace, monitoringCollected }

theorem stages_eq (target : Target) (settings : Settings) :
    stages target settings = beforeMonitoring target settings >>= fromMonitoring settings := by
  simp only [stages, beforeMonitoring, fromMonitoring, bind_assoc, pure_bind]

/-- How far a run has come when it turns to monitoring, and the namespace that it found. -/
def turningToMonitoring (cluster : Cluster) (target : Target) (settings : Settings)
    (tree : File.Tree) : Option String × Progress :=
  (beforeMonitoring target settings).on (site cluster target) { tree }

/-- What finding out how to reach monitoring comes to in a run. -/
def discovery (cluster : Cluster) (target : Target) (settings : Settings) (tree : File.Tree) :
    Except Monitoring.Fault Monitoring.Access :=
  ((Collect.monitoringAccess settings).run.on (site cluster target)
    (turningToMonitoring cluster target settings tree).2).1

theorem performs_beforeMonitoring :
    Performs (site cluster target) { tree } (beforeMonitoring target settings)
      (workloadNamespace cluster target settings tree)
      (preparation cluster target settings tree) := by
  unfold preparation opening
  rw [List.append_assoc]
  refine .tell_bind fun q hq => .tell_bind fun r hr => ?_
  refine .append (Performs.lifecycle _ _ target) fun q₁ h₁ => ?_
  refine .tell_bind fun r₁ hr₁ => ?_
  refine .append (Performs.install target) fun q₂ h₂ => ?_
  refine .tell_bind fun r₂ hr₂ => ?_
  have hopening : r₂.silent =
      (Operation.performAll (site cluster target) { tree } (opening cluster target)).silent := by
    rw [hr₂, h₂, opening, Operation.performAll_append]
    refine Operation.performAll_silent ?_ _
    rw [hr₁, h₁]
    exact Operation.performAll_silent (hr.trans hq) _
  -- the gate of the third stage looks at the bundle that the first two leave
  have hcollected : Instances.areCollected (site cluster target) r₂ =
      internalsCollected cluster target tree := by
    simp only [Instances.areCollected, internalsCollected, Operation.outcome?_silent hopening]
  refine .append (hcollected ▸ Performs.instances settings) fun q₃ h₃ => ?_
  refine .tell_bind fun r₃ hr₃ => ?_
  exact .then_quietly (Performs.exporter _) fun q => .pure _

theorem turningToMonitoring_silent :
    (turningToMonitoring cluster target settings tree).2.silent =
      (prepared cluster target settings tree).silent := performs_beforeMonitoring.2

theorem discovery_eq :
    discovery cluster target settings tree = access cluster target settings tree :=
  (performs_monitoringAccess turningToMonitoring_silent).1

theorem performs_stages :
    Performs (site cluster target) { tree } (stages target settings)
      (findings cluster target settings tree) (script cluster target settings tree) := by
  rw [stages_eq]
  refine .append performs_beforeMonitoring fun q hq => ?_
  exact .then_quietly (performs_monitoring hq) fun q => ⟨rfl, rfl⟩

/-- A run finds what `findings` says and does what `script` says. -/
theorem run_eq (cluster : Cluster) (target : Target) (settings : Settings) (tree : File.Tree) :
    (run cluster target settings tree).1 = findings cluster target settings tree ∧
      (run cluster target settings tree).2.silent =
        (Operation.performAll (site cluster target) { tree }
          (script cluster target settings tree)).silent :=
  performs_stages

end Run

end ClusterBundle
