import ClusterBundle.Cluster.Tool
import ClusterBundle.Proofs.Script.Records
import ClusterBundle.Proofs.Script.Steps
import ClusterBundle.Proofs.Text.Blank

/-!
What is absent and what is broken.

Absence is the one failure that a run takes for a fact about the cluster. A tool finds it only when
it reads objects: it has failed with one of the marks in what it said, or it has shown nothing of an
object that was asked for by name. Every other way in which a request can fail is a failure, so
that nothing but a read of objects is ever skipped for what the tool answered.
-/

namespace ClusterBundle

open Cluster (Call Failure Launch Query Tool ExitStatus)

namespace Cluster.Tool

/-- The tool has failed, and what it said holds a mark of absence. -/
def SaysAbsent (launch : Launch) : Prop :=
  ∃ status stdout stderr, launch = .exited status stdout stderr ∧ status ≠ .code 0 ∧
    ∃ mark ∈ ["Error from server (NotFound)", "doesn't have a resource type",
        "no matches for kind"],
      mark.toList <:+: (Text.trim (Utf8.lossy stderr)).toList

/-- The tool has succeeded for an object that was asked for by name, with nothing but blanks, tabs,
line ends and page breaks in its output. -/
def ShowsNothing (query : Query) (launch : Launch) : Prop :=
  ∃ name stdout stderr, query.selection = .named name ∧
    launch = .exited (.code 0) stdout stderr ∧ ∀ b ∈ stdout, b ∈ [32, 9, 10, 12, 13]

theorem reportsAbsence_iff {stderr : String} :
    reportsAbsence stderr = true ↔ ∃ mark ∈ absenceMarks, mark.toList <:+: stderr.toList := by
  simp only [reportsAbsence, List.any_eq_true, Text.holds_iff]

theorem isAsciiBlank_iff {b : UInt8} : isAsciiBlank b = true ↔ b ∈ [32, 9, 10, 12, 13] := by
  simp only [isAsciiBlank, Bool.or_eq_true, decide_eq_true_eq, List.mem_cons, List.not_mem_nil,
    or_false, or_assoc]

/-! ### One invocation -/

variable {tool : Tool} {arguments : List String} {absent : Option Failure} {fault : IoFault}
  {status : ExitStatus} {stdout stderr : Bytes}

theorem run_of_notStarted (h : tool.start arguments = .notStarted fault) :
    tool.run arguments absent = .error (.notStarted (tool.commandLine arguments) fault) := by
  simp only [run, h]

theorem run_of_success (h : tool.start arguments = .exited (.code 0) stdout stderr) :
    tool.run arguments absent = .ok stdout := by
  simp only [run, h]

/-- A tool that fails reports absence only where there is a failure for it. -/
theorem run_of_failure (h : tool.start arguments = .exited status stdout stderr)
    (hstatus : status ≠ .code 0) :
    tool.run arguments absent =
      .error ((absent.filter fun _ => reportsAbsence (errorText stderr)).getD
        (.commandFailed (tool.commandLine arguments) status.message (errorText stderr))) := by
  have hcode (value : Nat) (hvalue : status = .code value) : ∃ n, value = n + 1 :=
    Nat.exists_eq_succ_of_ne_zero fun hzero => hstatus (hzero ▸ hvalue)
  cases status with
  | signal number core =>
      cases absent with
      | none => simp [run, h]
      | some failure =>
          cases hreports : reportsAbsence (errorText stderr) <;>
            simp [run, h, hreports, Option.filter]
  | code value =>
      obtain ⟨n, rfl⟩ := hcode value rfl
      cases absent with
      | none => simp [run, h]
      | some failure =>
          cases hreports : reportsAbsence (errorText stderr) <;>
            simp [run, h, hreports, Option.filter]

/-- Without a failure for absence, a tool never reports it. -/
theorem not_isNotFound_of_run {failure : Failure}
    (h : tool.run arguments none = .error failure) : failure.isNotFound = false := by
  cases hstart : tool.start arguments with
  | notStarted fault =>
      cases (run_of_notStarted hstart).symm.trans h
      rfl
  | exited status stdout stderr =>
      by_cases hstatus : status = .code 0
      · subst hstatus
        cases (run_of_success hstart).symm.trans h
      · cases (run_of_failure hstart hstatus).symm.trans h
        rfl

/-! ### The requests -/

variable {query : Query}

/-- What reading objects comes to, by what came of the invocation. -/
inductive Read (tool : Tool) (query : Query) : Launch → Except Failure Bytes → Prop where
  | notStarted (fault : IoFault) :
      Read tool query (.notStarted fault)
        (.error (.notStarted (tool.commandLine query.arguments) fault))
  | shown (stdout stderr : Bytes)
      (h : ¬ ShowsNothing query (.exited (.code 0) stdout stderr)) :
      Read tool query (.exited (.code 0) stdout stderr) (.ok stdout)
  | nothing (stdout stderr : Bytes)
      (h : ShowsNothing query (.exited (.code 0) stdout stderr)) :
      Read tool query (.exited (.code 0) stdout stderr) (.error (absence query))
  | absent (status : ExitStatus) (stdout stderr : Bytes)
      (h : SaysAbsent (.exited status stdout stderr)) :
      Read tool query (.exited status stdout stderr) (.error (absence query))
  | failed (status : ExitStatus) (stdout stderr : Bytes) (hstatus : status ≠ .code 0)
      (h : ¬ SaysAbsent (.exited status stdout stderr)) :
      Read tool query (.exited status stdout stderr)
        (.error (.commandFailed (tool.commandLine query.arguments) status.message
          (Text.trim (Utf8.lossy stderr))))

theorem saysAbsent_iff (hstatus : status ≠ .code 0) :
    SaysAbsent (.exited status stdout stderr) ↔ reportsAbsence (errorText stderr) = true := by
  rw [reportsAbsence_iff]
  constructor
  · rintro ⟨status, stdout, stderr, hlaunch, -, hmark⟩
    cases hlaunch
    exact hmark
  · exact fun hmark => ⟨status, stdout, stderr, rfl, hstatus, hmark⟩

theorem showsNothing_iff {name : String} (h : query.selection = .named name) :
    ShowsNothing query (.exited (.code 0) stdout stderr) ↔ stdout.all isAsciiBlank = true := by
  simp only [List.all_eq_true, isAsciiBlank_iff]
  constructor
  · rintro ⟨_, stdout, stderr, -, hlaunch, hblank⟩
    cases hlaunch
    exact hblank
  · exact fun hblank => ⟨name, stdout, stderr, h, rfl, hblank⟩

theorem get_of_error {failure : Failure}
    (h : tool.run query.arguments (some (absence query)) = .error failure) :
    tool.get query = .error failure := by
  rw [get, h]

theorem read_get (tool : Tool) (query : Query) :
    Read tool query (tool.start query.arguments) (tool.get query) := by
  cases hstart : tool.start query.arguments with
  | notStarted fault =>
      rw [get_of_error (run_of_notStarted hstart)]
      exact .notStarted fault
  | exited status stdout stderr =>
      by_cases hstatus : status = .code 0
      · subst hstatus
        have hrun := @run_of_success tool _ (some (absence query)) _ _ hstart
        cases hselection : query.selection with
        | named name =>
            have hnothing := @showsNothing_iff stdout stderr query name hselection
            cases hblank : stdout.all isAsciiBlank with
            | true =>
                simp only [get, hrun, hselection, hblank, if_true]
                exact .nothing _ _ (hnothing.2 hblank)
            | false =>
                simp only [get, hrun, hselection, hblank, Bool.false_eq_true, if_false]
                exact .shown _ _ fun h => by simp [hnothing.1 h] at hblank
        | labeled selector =>
            simp only [get, hrun, hselection]
            refine .shown _ _ ?_
            rintro ⟨name, _, _, hnamed, -⟩
            cases hselection.symm.trans hnamed
        | all =>
            simp only [get, hrun, hselection]
            refine .shown _ _ ?_
            rintro ⟨name, _, _, hnamed, -⟩
            cases hselection.symm.trans hnamed
      · have hrun := @run_of_failure tool _ (some (absence query)) _ _ _ hstart hstatus
        rw [get_of_error hrun]
        have hsaid := @saysAbsent_iff status stdout stderr hstatus
        cases hreports : reportsAbsence (errorText stderr) with
        | true => exact .absent _ _ _ (hsaid.2 hreports)
        | false =>
            refine .failed _ _ _ hstatus fun h => ?_
            simp [hsaid.1 h] at hreports

/-- Reading objects finds them absent for one of two reasons. -/
theorem Read.isNotFound_iff {launch : Launch} {answer : Except Failure Bytes}
    (h : Read tool query launch answer) :
    (∃ failure, answer = .error failure ∧ failure.isNotFound = true) ↔
      SaysAbsent launch ∨ ShowsNothing query launch := by
  cases h with
  | notStarted fault =>
      constructor
      · rintro ⟨failure, heq, hnotFound⟩
        cases heq
        cases hnotFound
      · rintro (⟨_, _, _, hlaunch, -⟩ | ⟨_, _, _, -, hlaunch, -⟩) <;> cases hlaunch
  | shown stdout stderr hshown =>
      constructor
      · rintro ⟨failure, heq, -⟩
        cases heq
      · rintro (⟨_, _, _, hlaunch, hstatus, -⟩ | hnothing)
        · cases hlaunch
          exact absurd rfl hstatus
        · exact absurd hnothing hshown
  | nothing stdout stderr hnothing => exact ⟨fun _ => .inr hnothing, fun _ => ⟨_, rfl, rfl⟩⟩
  | absent status stdout stderr habsent =>
      exact ⟨fun _ => .inl habsent, fun _ => ⟨_, rfl, rfl⟩⟩
  | failed status stdout stderr hstatus habsent =>
      constructor
      · rintro ⟨failure, heq, hnotFound⟩
        cases heq
        cases hnotFound
      · rintro (hsaid | ⟨_, _, _, -, hlaunch, -⟩)
        · exact absurd hsaid habsent
        · cases hlaunch
          exact absurd rfl hstatus

/-- And then the failure names what was asked for. -/
theorem Read.eq_absence {launch : Launch} {failure : Failure}
    (h : Read tool query launch (.error failure)) (hnotFound : failure.isNotFound = true) :
    failure = absence query := by
  cases h with
  | notStarted fault => cases hnotFound
  | nothing stdout stderr hnothing => rfl
  | absent status stdout stderr habsent => rfl
  | failed status stdout stderr hstatus habsent => cases hnotFound

/-- Only reading objects finds that something is absent. -/
theorem get_of_isNotFound {call : Call} {failure : Failure}
    (h : tool.answer call = .error failure) (hnotFound : failure.isNotFound = true) :
    ∃ query, call = .get query ∧ failure = absence query := by
  cases call with
  | get query =>
      have hread := read_get tool query
      rw [show tool.get query = .error failure from h] at hread
      exact ⟨query, rfl, hread.eq_absence hnotFound⟩
  | exec container command =>
      rw [not_isNotFound_of_run h] at hnotFound
      cases hnotFound
  | logs source =>
      rw [not_isNotFound_of_run h] at hnotFound
      cases hnotFound
  | token ns account duration =>
      simp only [answer, token] at h
      split at h
      · rename_i hrun
        cases h
        rw [not_isNotFound_of_run hrun] at hnotFound
        cases hnotFound
      · split at h
        · cases h
          cases hnotFound
        · split at h <;> cases h
          cases hnotFound
  | fetch url token bundle =>
      simp only [answer] at h
      split at h <;> cases h
      cases hnotFound

/-- A command that fails and is not a read of objects says so. -/
theorem answer_of_failure {call : Call} (hcall : call.arguments? = some arguments)
    (hread : ∀ query, call ≠ .get query)
    (h : tool.start arguments = .exited status stdout stderr) (hstatus : status ≠ .code 0) :
    tool.answer call =
      .error (.commandFailed (tool.commandLine arguments) status.message
        (Text.trim (Utf8.lossy stderr))) := by
  have hrun := @run_of_failure tool arguments none _ _ _ h hstatus
  cases call with
  | get query => exact absurd rfl (hread query)
  | exec container command | logs source =>
      cases hcall
      exact hrun
  | token ns account duration =>
      cases hcall
      simp only [answer, token, hrun]
      rfl
  | fetch url token bundle => cases hcall

/-- A token that was issued is a text with nothing to trim. -/
theorem token_eq_ok {ns account duration : String} {bytes : Bytes}
    (h : tool.token ns account duration = .ok bytes) :
    ∃ text : String, bytes = Utf8.encode text ∧ text ≠ "" ∧
      (∀ c, text.toList.head? = some c → isBlank c = false) ∧
      ∀ c, text.toList.getLast? = some c → isBlank c = false := by
  unfold token at h
  split at h
  · cases h
  · split at h
    · cases h
    · rename_i text _
      dsimp only at h
      split at h
      · cases h
      · rename_i hempty
        cases h
        refine ⟨_, rfl, hempty, fun c hc => ?_, fun c hc => ?_⟩
        · rw [Text.trim, String.toList_ofList] at hc
          exact Text.head?_trimChars hc
        · rw [Text.trim, String.toList_ofList] at hc
          exact Text.getLast?_trimChars hc

/-! ### A run -/

/-- A step that was skipped for its output is a read of objects that the tool found absent. -/
theorem absence_of_record? {site : Site} {tree : File.Tree} {op : Operation} {r : StepRecord}
    (hcluster : site.cluster = tool.cluster)
    (htallies : ∀ collected, op.collected? = some collected →
      collected.1.step? = some collected.2)
    (h : op.record? site tree = some r) (hskipped : r.outcome = .skipped)
    (houtput : r.output.isSome) :
    ∃ query, r.step = .ofQuery query ∧ r.reason = (absence query).message ∧
      tool.get query = .error (absence query) := by
  cases op with
  | collect mode step output call =>
      obtain ⟨hstep, houtcome, -, -⟩ := Ending.of_record? h
      obtain ⟨failure, hanswer, hnotFound⟩ :=
        (Ending.settle_outcome_skipped_iff _).1 (houtcome.symm.trans hskipped)
      have hask : tool.answer call = .error failure := by
        rw [← hanswer, hcluster]
        rfl
      obtain ⟨query, rfl, rfl⟩ := get_of_isNotFound hask hnotFound
      have hsame : step = .ofQuery query := (Option.some.inj (htallies _ rfl)).symm
      refine ⟨query, hstep.trans hsame, ?_, hask⟩
      simp only [Operation.record?, hanswer, Ending.settle, hnotFound, if_true,
        Ending.record?, Option.some.injEq] at h
      rw [← h]
  | save step output content =>
      obtain ⟨-, houtcome, -, -⟩ := Ending.of_record? h
      obtain ⟨failure, hanswer, -⟩ :=
        (Ending.settle_outcome_skipped_iff _).1 (houtcome.symm.trans hskipped)
      cases hanswer
  | skip step reason | fail step reason =>
      cases h
      cases houtput
  | ask | reread | makeDirectory | reset => cases h

/-- What a tool says to be absent is told apart from what is broken, up to the records of a run. -/
structure Discerns (tool : Tool) : Prop where
  reads : ∀ query, Read tool query (tool.start query.arguments) (tool.get query)
  absent_iff : ∀ query,
    (∃ failure, tool.get query = .error failure ∧ failure.isNotFound = true) ↔
      SaysAbsent (tool.start query.arguments) ∨ ShowsNothing query (tool.start query.arguments)
  absence_eq : ∀ query failure, tool.get query = .error failure → failure.isNotFound = true →
    failure = .notFound query.kind query.targetName query.ns
  /-- No other request finds that something is absent, whatever command or network it meets. -/
  only_reads : ∀ call failure, tool.answer call = .error failure → failure.isNotFound = true →
    ∃ query, call = .get query
  /-- A command that fails keeps what the tool said. -/
  commands : ∀ call arguments, call.arguments? = some arguments → (∀ query, call ≠ .get query) →
    ∀ status stdout stderr, tool.start arguments = .exited status stdout stderr →
      status ≠ .code 0 →
      tool.answer call = .error (.commandFailed (tool.commandLine arguments) status.message
        (Text.trim (Utf8.lossy stderr)))
  tokens : ∀ ns account duration bytes, tool.answer (.token ns account duration) = .ok bytes →
    ∃ text : String, bytes = Utf8.encode text ∧ text ≠ "" ∧
      (∀ c, text.toList.head? = some c → isBlank c = false) ∧
      ∀ c, text.toList.getLast? = some c → isBlank c = false
  /-- What a run skips for its output is a read of objects that the tool found absent. -/
  skipped : ∀ target settings tree,
    ∀ r ∈ (ClusterBundle.Run.run tool.cluster target settings tree).2.tally.records,
      r.outcome = .skipped → r.output.isSome →
        r.step.action = "get" ∧ ∃ query, r.step = .ofQuery query ∧
          r.reason = (absence query).message ∧ tool.get query = .error (absence query)

/-- Whatever comes of running it and whatever the network is like, a tool tells what is absent
from what is broken. -/
theorem tool_discerns (tool : Tool) : tool.Discerns where
  reads := read_get tool
  absent_iff query := (read_get tool query).isNotFound_iff
  absence_eq query failure h hnotFound := by
    have hread := read_get tool query
    rw [h] at hread
    exact hread.eq_absence hnotFound
  only_reads call failure h hnotFound := by
    obtain ⟨query, hcall, -⟩ := get_of_isNotFound h hnotFound
    exact ⟨query, hcall⟩
  commands call arguments hcall hread status stdout stderr h hstatus :=
    answer_of_failure hcall hread h hstatus
  tokens ns account duration bytes h := token_eq_ok h
  skipped target settings tree r hr hskipped houtput := by
    have hsilent := (ClusterBundle.Run.run_eq tool.cluster target settings tree).2
    rw [(Progress.silent_eq_iff.1 hsilent).2.1] at hr
    rcases Operation.mem_records_performAll hr with hr | ⟨op, hop, tree, hrecord⟩
    · cases hr
    · have htallies := ClusterBundle.Run.script_tallies tool.cluster target settings _ op hop
      obtain ⟨query, hstep, hreason, hget⟩ :=
        absence_of_record? rfl htallies hrecord hskipped houtput
      exact ⟨by rw [hstep]; rfl, query, hstep, hreason, hget⟩

end Cluster.Tool

end ClusterBundle
