import ClusterBundle.Collection.Step
import ClusterBundle.Log.Event

/-!
The tally of a run: how many steps had which outcome, with a record of every step that did not
write anything.
-/

namespace ClusterBundle

inductive Outcome where
  /-- The output is in the bundle. -/
  | written
  /-- There is nothing to collect. -/
  | skipped
  /-- The request or the write failed. -/
  | failed
  deriving Repr, DecidableEq

def Outcome.text : Outcome → String
  | .written => "written"
  | .skipped => "skipped"
  | .failed => "failed"

/-- A step that did not write anything, and why. -/
structure StepRecord where
  step : Step
  outcome : Outcome
  reason : String
  /-- The place in the bundle that the output would have had. -/
  output : Option String := none
  deriving Repr, DecidableEq

structure Tally where
  written : Nat := 0
  skipped : Nat := 0
  failed : Nat := 0
  records : List StepRecord := []
  deriving Repr, DecidableEq

namespace Tally

def total (tally : Tally) : Nat := tally.written + tally.skipped + tally.failed

/-- Whether every step wrote something. -/
def isClean (tally : Tally) : Bool := tally.skipped = 0 && tally.failed = 0

def addWritten (tally : Tally) : Tally := { tally with written := tally.written + 1 }

def addSkipped (tally : Tally) (step : Step) (reason : String) (output : Option String) : Tally :=
  { tally with
    skipped := tally.skipped + 1
    records := tally.records ++ [{ step, outcome := .skipped, reason, output }] }

def addFailed (tally : Tally) (step : Step) (reason : String) (output : Option String) : Tally :=
  { tally with
    failed := tally.failed + 1
    records := tally.records ++ [{ step, outcome := .failed, reason, output }] }

/-- The details that every event about a step has. -/
def stepFields (event : String) (step : Step) : List (String × String) :=
  [("event", event), ("action", step.action), ("kind", step.kind), ("name", step.name),
    ("namespace", step.ns.getD "")]

def writtenEvent (step : Step) (path : String) : Event :=
  .info s!"Collected {step.text}" (stepFields "step_written" step ++ [("path", path)])

def skippedEvent (step : Step) (reason : String) : Event :=
  .warning s!"Skipped {step.text}" (stepFields "step_skipped" step ++ [("reason", reason)])

def failedEvent (step : Step) (reason : String) : Event :=
  .warning s!"Failed to {step.text}" (stepFields "step_failed" step ++ [("reason", reason)])

end Tally

def StepRecord.json (r : StepRecord) : Json.Value :=
  let output := match r.output with
    | some path => [("output", .text path)]
    | none => []
  .object
    ([("step", r.step.json), ("outcome", .text r.outcome.text), ("reason", .text r.reason)] ++
      output)

def Tally.json (tally : Tally) : Json.Value :=
  .object
    [("written", .number (.integer tally.written)),
      ("skipped", .number (.integer tally.skipped)),
      ("failed", .number (.integer tally.failed)),
      ("records", .list (tally.records.map StepRecord.json))]

end ClusterBundle
