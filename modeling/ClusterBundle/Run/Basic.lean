import ClusterBundle.Collection.Exporter
import ClusterBundle.Collection.Install
import ClusterBundle.Collection.Instances
import ClusterBundle.Collection.Lifecycle
import ClusterBundle.Collection.Monitoring
import ClusterBundle.Run.Report

/-!
A whole run: the stages in their order.

The only branch is whether monitoring can be reached. Nothing that happens in a stage keeps the
next one from being entered.
-/

namespace ClusterBundle

namespace Run

open Collect (emit)

/-- What is found out in a run besides what is in the bundle and the tally. -/
structure Findings where
  phases : List Phase
  workloadNamespace : Option String
  monitoringCollected : Bool
  deriving Repr, DecidableEq

def enter (phase : Phase) : Collect Unit :=
  emit [.info "Entering phase" [("event", "phase"), ("phase", phase.eventName)]]

/-- Goes through monitoring if it can be reached. Says whether it could, and which phases that
took. -/
def monitoring (settings : Settings) : Collect (Bool × List Phase) := do
  enter .monitoringAccess
  match ← (Collect.monitoringAccess settings).run with
  | .ok access =>
      enter .monitoring
      Collect.monitoring access settings
      return (true, [.monitoringAccess, .monitoring])
  | .error fault =>
      emit [.warning "Monitoring discovery failed, skipping monitoring stage"
        [("error", fault.message)]]
      Collect.noteSkipped
        { action := "collect", kind := "monitoring", name := Monitoring.directory } fault.message
      enter .monitoringSkipped
      return (false, [.monitoringAccess, .monitoringSkipped])

/-- Goes through all stages. -/
def stages (target : Target) (settings : Settings) : Collect Findings := do
  emit [.info "Starting must-gather"
    [("operator", target.operator), ("namespace", target.ns),
      ("destination", target.destination)]]
  enter .lifecycle
  Collect.lifecycle target
  enter .install
  Collect.install target
  enter .instances
  let workloadNamespace ← Collect.instances settings
  enter .exporter
  Collect.exporter workloadNamespace
  let (monitoringCollected, last) ← monitoring settings
  enter .done
  let tally := (← getThe Progress).tally
  emit [.info "Must-gather finished"
    [("written", toString tally.written), ("skipped", toString tally.skipped),
      ("failed", toString tally.failed)]]
  return {
    phases := [.start, .lifecycle, .install, .instances, .exporter] ++ last ++ [.done]
    workloadNamespace, monitoringCollected }

end Run

/-- The bundle of a target. -/
def Target.bundle (target : Target) : Bundle := { root := target.destination }

/-- Makes the root of the bundle. -/
def Target.prepare (target : Target) (tree : File.Tree) : Except Bundle.Fault Unit × File.Tree :=
  match File.createAll tree target.destination with
  | (.ok (), tree) => (.ok (), tree)
  | (.error fault, tree) => (.error (.io target.destination fault), tree)

/-- A whole run on a tree of files: what was found and how far the collection came. -/
def Run.run (cluster : Cluster) (target : Target) (settings : Settings) (tree : File.Tree) :
    Run.Findings × Progress :=
  ((Run.stages target settings).run { cluster, bundle := target.bundle }).run { tree }

/-- The report of a run that started and finished at given times. -/
def Run.report (target : Target) (findings : Run.Findings) (tally : Tally)
    (started finished : Calendar.Instant) : Report :=
  { started, finished, target, phases := findings.phases,
    workloadNamespace := findings.workloadNamespace,
    monitoringCollected := findings.monitoringCollected, tally }

end ClusterBundle
