import ClusterBundle.Bundle.Basic
import ClusterBundle.Calendar.Instant
import ClusterBundle.Collection.Tally
import ClusterBundle.Collection.Target

/-!
The phases of a run, and the report of what a run did.
-/

namespace ClusterBundle

inductive Phase where
  | start
  | lifecycle
  | install
  | instances
  | exporter
  /-- Finding out how to reach monitoring. -/
  | monitoringAccess
  | monitoring
  | monitoringSkipped
  | done
  deriving Repr, DecidableEq

namespace Phase

/-- The name of a phase in events. -/
def eventName : Phase → String
  | .start => "Init"
  | .lifecycle => "Olm"
  | .install => "OperatorInfo"
  | .instances => "Instances"
  | .exporter => "WorkloadDiagnostics"
  | .monitoringAccess => "MonitoringDiscovery"
  | .monitoring => "Monitoring"
  | .monitoringSkipped => "SkipMonitoring"
  | .done => "Done"

/-- The name of a phase in reports. -/
def text : Phase → String
  | .start => "init"
  | .lifecycle => "olm"
  | .install => "operator_info"
  | .instances => "instances"
  | .exporter => "workload_diagnostics"
  | .monitoringAccess => "monitoring_discovery"
  | .monitoring => "monitoring"
  | .monitoringSkipped => "skip_monitoring"
  | .done => "done"

end Phase

structure Report where
  started : Calendar.Instant
  finished : Calendar.Instant
  target : Target
  phases : List Phase
  workloadNamespace : Option String
  monitoringCollected : Bool
  tally : Tally
  deriving Repr, DecidableEq

namespace Report

/-- The file in the bundle that a report is saved in. -/
def fileName : String := "gather-summary.json"

def json (report : Report) : Json.Value :=
  .object
    [("started_at", .text report.started.text),
      ("finished_at", .text report.finished.text),
      ("target", report.target.json),
      ("phases", .list (report.phases.map fun phase => .text phase.text)),
      ("workload_namespace", (report.workloadNamespace.map .text).getD .null),
      ("monitoring_collected", .bool report.monitoringCollected),
      ("tally", report.tally.json)]

/-- Saves a report in the bundle of its target. -/
def save (report : Report) (tree : File.Tree) : Bundle.Written :=
  ({ root := report.target.destination : Bundle }).write tree fileName
    (Utf8.encode report.json.pretty)

end Report

end ClusterBundle
