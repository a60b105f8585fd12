import ClusterBundle.Console.Style
import ClusterBundle.Console.Table
import ClusterBundle.Run.Report

/-!
What is printed at the end of a run: a banner, the outcomes with their numbers, and every step that
did not write anything.
-/

namespace ClusterBundle.Console

def outcomeColour : Outcome → Colour
  | .written => .green
  | .skipped => .yellow
  | .failed => .red

def outcomeText (colours : Bool) (outcome : Outcome) : String :=
  paint colours { colour := outcomeColour outcome } outcome.text

/-- The first line of a text, without its line end. -/
def firstLine (text : List Char) : List Char :=
  let line := text.takeWhile (· ≠ '\n')
  if line.length < text.length ∧ line.getLast? = some '\r' then line.dropLast else line

/-- The first line of a text, cut to a number of characters; a cut is marked. -/
def truncate (limit : Nat) (text : String) : String :=
  let line := firstLine text.toList
  String.ofList (if limit < line.length then line.take limit ++ ['…'] else line)

/-- How many characters of a reason are shown. -/
def reasonLimit : Nat := 80

/-- The banner at the end of a run. -/
def banner (colours : Bool) (report : Report) : Printed :=
  let elapsed := Calendar.Instant.elapsedSeconds report.started report.finished
  let text := s!"Must-gather finished in {elapsed}s, bundle at {report.target.destination}"
  let outcome :=
    if report.tally.isClean then message colours .success text
    else message colours .warning (text ++ " (some data is missing, see below)")
  let monitoring :=
    if report.monitoringCollected then {}
    else message colours .warning "User-workload monitoring data was not collected"
  outcome ++ monitoring

/-- The rows of the table of outcomes. -/
def countRows (colours : Bool) (tally : Tally) : List (List String) :=
  [(Outcome.written, tally.written), (.skipped, tally.skipped), (.failed, tally.failed)].map
    fun (outcome, count) => [outcomeText colours outcome, toString count]

/-- The rows of the table of records. -/
def recordRows (colours : Bool) (tally : Tally) : List (List String) :=
  tally.records.map fun r =>
    [outcomeText colours r.outcome, r.step.text, truncate reasonLimit r.reason]

/-- The outcomes with their numbers, and the records if there are any. -/
def tallyTables (colours : Bool) (tally : Tally) : Printed :=
  let counts := line (table ["Outcome", "Calls"] (countRows colours tally))
  if tally.records.isEmpty then counts
  else counts ++ line (table ["Outcome", "Step", "Reason"] (recordRows colours tally))

end ClusterBundle.Console
