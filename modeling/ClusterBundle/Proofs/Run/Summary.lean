import ClusterBundle.Proofs.Bundle.Room
import ClusterBundle.Proofs.Json.Pretty
import ClusterBundle.Run.Report

/-!
The saved summary of a run says what its report says.

A report is read back from the document that was saved, field by field: every part of a report has
its own reading (`ofJson?`), which is strict about the members that are always there and tells a
member that is left out, one that is null and one that is the empty text from each other. Each
part is found again in what was written of it, so two reports with one text are one report, the
times of the run aside.
-/

namespace ClusterBundle

/-! ### Looking into a document -/

namespace Json.Value

def flag? : Value → Option Bool
  | .bool flag => some flag
  | _ => none

def count? : Value → Option Nat
  | .number (.integer (.ofNat n)) => some n
  | _ => none

def items? : Value → Option (List Value)
  | .list items => some items
  | _ => none

/-- The text under a key that may be missing. -/
def optionalText? (key : String) (v : Value) : Option (Option String) :=
  match v.get? key with
  | none => some none
  | some found => found.text?.map some

/-- The text or the null under a key. -/
def nullableText? (key : String) (v : Value) : Option (Option String) :=
  match v.get? key with
  | some .null => some none
  | some (.text s) => some (some s)
  | _ => none

end Json.Value

open Json (Value)

/-- A list comes back if every item does. -/
theorem mapM_eq_some {α : Type} {again : α → Option α} (h : ∀ a, again a = some a)
    (items : List α) : items.mapM again = some items := by
  induction items with
  | nil => rfl
  | cons a items ih => simp [List.mapM_cons, h, ih]

/-! ### Reading the parts of a report -/

def Target.ofJson? (v : Value) : Option Target := do
  let operator ← (← v.get? "operator_name").text?
  let ns ← (← v.get? "operator_namespace").text?
  let destination ← (← v.get? "destination_dir").text?
  return { operator, ns, destination }

theorem Target.ofJson?_sorted (target : Target) : ofJson? target.json.sorted = some target := by
  simp [ofJson?, json, Json.lookup_insert, Value.get?, Value.text?]

def Phase.all : List Phase :=
  [.start, .lifecycle, .install, .instances, .exporter, .monitoringAccess, .monitoring,
    .monitoringSkipped, .done]

def Phase.ofJson? (v : Value) : Option Phase := do
  let s ← v.text?
  Phase.all.find? fun phase => phase.text = s

theorem Phase.ofJson?_text (phase : Phase) : ofJson? (.text phase.text) = some phase := by
  cases phase <;> rfl

def Outcome.ofJson? (v : Value) : Option Outcome := do
  let s ← v.text?
  [.written, .skipped, .failed].find? fun outcome : Outcome => outcome.text = s

theorem Outcome.ofJson?_text (outcome : Outcome) :
    ofJson? (.text outcome.text) = some outcome := by
  cases outcome <;> rfl

def Step.ofJson? (v : Value) : Option Step := do
  let action ← (← v.get? "action").text?
  let kind ← (← v.get? "kind").text?
  let name ← (← v.get? "name").text?
  let ns ← v.optionalText? "namespace"
  return { action, kind, name, ns }

theorem Step.ofJson?_sorted (step : Step) : ofJson? step.json.sorted = some step := by
  obtain ⟨action, kind, name, _ | ns⟩ := step <;>
    simp [ofJson?, json, Json.lookup_insert, Value.get?, Value.text?, Value.optionalText?]

def StepRecord.ofJson? (v : Value) : Option StepRecord := do
  let step ← Step.ofJson? (← v.get? "step")
  let outcome ← Outcome.ofJson? (← v.get? "outcome")
  let reason ← (← v.get? "reason").text?
  let output ← v.optionalText? "output"
  return { step, outcome, reason, output }

theorem StepRecord.ofJson?_sorted (r : StepRecord) : ofJson? r.json.sorted = some r := by
  obtain ⟨step, outcome, reason, _ | output⟩ := r <;>
    simp [ofJson?, json, Json.lookup_insert, Value.get?, Value.text?, Value.optionalText?,
      Step.ofJson?_sorted, Outcome.ofJson?_text]

def Tally.ofJson? (v : Value) : Option Tally := do
  let written ← (← v.get? "written").count?
  let skipped ← (← v.get? "skipped").count?
  let failed ← (← v.get? "failed").count?
  let records ← (← (← v.get? "records").items?).mapM StepRecord.ofJson?
  return { written, skipped, failed, records }

theorem Tally.ofJson?_sorted (tally : Tally) : ofJson? tally.json.sorted = some tally := by
  simp [ofJson?, json, Json.lookup_insert, Value.get?, Value.count?, Value.items?,
    Function.comp_def, mapM_eq_some StepRecord.ofJson?_sorted]

/-! ### Reading a report -/

/-- Everything that a report says apart from its two points in time. -/
structure Report.Content where
  target : Target
  phases : List Phase
  workloadNamespace : Option String
  monitoringCollected : Bool
  tally : Tally
  deriving Repr, DecidableEq

def Report.content (report : Report) : Content :=
  { target := report.target
    phases := report.phases
    workloadNamespace := report.workloadNamespace
    monitoringCollected := report.monitoringCollected
    tally := report.tally }

def Report.Content.ofJson? (v : Value) : Option Content := do
  let target ← Target.ofJson? (← v.get? "target")
  let phases ← (← (← v.get? "phases").items?).mapM Phase.ofJson?
  let workloadNamespace ← v.nullableText? "workload_namespace"
  let monitoringCollected ← (← v.get? "monitoring_collected").flag?
  let tally ← Tally.ofJson? (← v.get? "tally")
  return { target, phases, workloadNamespace, monitoringCollected, tally }

theorem Report.ofJson?_sorted (report : Report) :
    Report.Content.ofJson? report.json.sorted = some report.content := by
  obtain ⟨started, finished, target, phases, _ | workload, monitored, tally⟩ := report <;>
    simp [Content.ofJson?, json, content, Json.lookup_insert, Value.get?, Value.flag?, Value.items?,
      Value.nullableText?, Function.comp_def, Target.ofJson?_sorted, Tally.ofJson?_sorted,
      mapM_eq_some Phase.ofJson?_text]

/-! ### How deep a report goes -/

/-- The counts of a tally are numbers of 64 bits. -/
structure Tally.FitsWords (tally : Tally) : Prop where
  written : tally.written < 1 <<< 64
  skipped : tally.skipped < 1 <<< 64
  failed : tally.failed < 1 <<< 64

theorem Step.fits (step : Step) (depth : Nat) : step.json.Fits (depth + 1) := by
  obtain ⟨action, kind, name, _ | ns⟩ := step <;> simp [json, Value.Fits]

theorem StepRecord.fits (r : StepRecord) (depth : Nat) : r.json.Fits (depth + 2) := by
  have hstep := r.step.fits depth
  obtain ⟨step, outcome, reason, _ | output⟩ := r <;> simpa [json, Value.Fits] using hstep

theorem Tally.FitsWords.fits {tally : Tally} (h : tally.FitsWords) (depth : Nat) :
    tally.json.Fits (depth + 4) := by
  have hrecords (r : StepRecord) := r.fits depth
  have hwritten := Json.Reader.isWord_natural h.written
  have hskipped := Json.Reader.isWord_natural h.skipped
  have hfailed := Json.Reader.isWord_natural h.failed
  simp [json, Value.Fits, hwritten, hskipped, hfailed, hrecords]

theorem Report.fits {report : Report} (h : report.tally.FitsWords) (depth : Nat) :
    report.json.Fits (depth + 5) := by
  have htally := h.fits depth
  obtain ⟨started, finished, target, phases, _ | workload, monitored, tally⟩ := report <;>
    simpa [json, Target.json, Value.Fits] using htally

/-! ### The saved summary -/

namespace Report

/-- A report is read back from its text. -/
theorem read_json {report : Report} (h : report.tally.FitsWords) :
    Json.read .any (Utf8.encode report.json.pretty) = .ok report.json.sorted :=
  Json.read_pretty (fits h 122)

/-- A report that was saved is found again in the file, and other content has another text. -/
theorem summary_faithful {report : Report} (hcounts : report.tally.FitsWords) :
    (∀ {tree saved : File.Tree} {path : String}, report.save tree = (.ok path, saved) →
      path = Path.join report.target.destination fileName ∧
      File.read saved path = .ok (Utf8.encode report.json.pretty) ∧
      ∃ members, Json.read .any (Utf8.encode report.json.pretty) = .ok (.object members) ∧
        Content.ofJson? (.object members) = some report.content) ∧
    ∀ {other : Report}, other.tally.FitsWords → other.content ≠ report.content →
      other.json.pretty ≠ report.json.pretty := by
  refine ⟨fun hsaved => ?_, fun hother hdiffer htext => hdiffer ?_⟩
  · obtain ⟨hresolve, hread⟩ := Bundle.read_of_write hsaved
    obtain ⟨-, rfl⟩ := Bundle.resolve_ok hresolve
    exact ⟨rfl, hread, _, read_json hcounts, ofJson?_sorted report⟩
  · have hread := read_json hother
    rw [htext, read_json hcounts] at hread
    have hboth := congrArg Content.ofJson? (Except.ok.inj hread)
    rw [ofJson?_sorted, ofJson?_sorted] at hboth
    exact (Option.some.inj hboth).symm

/-- A report with quotes, backslashes, control characters and characters of several bytes, with the
empty text where a text may be missing, and with the largest count. -/
def escapedReport : Report where
  started := ⟨0, 0⟩
  finished := ⟨1, 0⟩
  target := { operator := "\"o\"", ns := "n\\", destination := "/b" }
  phases := [.start, .monitoringAccess, .monitoringSkipped, .done]
  workloadNamespace := some ""
  monitoringCollected := false
  tally :=
    { written := 18446744073709551615
      skipped := 1
      failed := 1
      records :=
        [{ step := { action := "get", kind := "pod", name := "\x00\x08\x0c\x1f" }
           outcome := .skipped
           reason := "a\r\n\tb" },
         { step := { action := "logs", kind := "pod", name := "é", ns := some "" }
           outcome := .failed
           reason := "\\u0041 \x7f 日本 🦀"
           output := some "" }] }

theorem summary_faithful_escaped :
    escapedReport.tally.FitsWords ∧
      (∃ saved members,
        escapedReport.save ⟨[(["b"], .directory)]⟩ = (.ok "/b/gather-summary.json", saved) ∧
        File.read saved "/b/gather-summary.json" = .ok (Utf8.encode escapedReport.json.pretty) ∧
        Json.read .any (Utf8.encode escapedReport.json.pretty) = .ok (.object members) ∧
        Content.ofJson? (.object members) = some escapedReport.content) ∧
      Report.content { escapedReport with workloadNamespace := none } ≠ escapedReport.content ∧
      (Report.json { escapedReport with workloadNamespace := none }).pretty ≠
        escapedReport.json.pretty := by
  have hcounts : escapedReport.tally.FitsWords := ⟨by decide, by decide, by decide⟩
  have hpath : (escapedReport.save ⟨[(["b"], .directory)]⟩).1.toOption =
      some "/b/gather-summary.json" := by decide +kernel
  have hdiffer : Report.content { escapedReport with workloadNamespace := none } ≠
      escapedReport.content := by decide
  obtain ⟨hsummary, hother⟩ := summary_faithful hcounts
  refine ⟨hcounts, ?_, hdiffer, hother hcounts hdiffer⟩
  rcases hsaved : escapedReport.save ⟨[(["b"], .directory)]⟩ with ⟨_ | path, saved⟩
  · rw [hsaved] at hpath
    cases hpath
  · rw [hsaved] at hpath
    obtain rfl := Option.some.inj hpath
    obtain ⟨-, hread, members, hdocument, hcontent⟩ := hsummary hsaved
    exact ⟨saved, members, rfl, hread, hdocument, hcontent⟩

end Report

end ClusterBundle
