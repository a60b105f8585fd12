import ClusterBundle.Proofs.Session.Accounting

/-!
The records that operations leave in the tally.

Every operation that is tallied either writes or leaves a record, and nothing else touches the
tally. So the records of a script can be traced back to its operations, and a script that leaves
the tally clean has written everything that it set out to write: its trace is known from the
script alone.
-/

namespace ClusterBundle

namespace Ending

variable {step : Step} {output : Option String}

theorem records_count (ending : Ending) (tally : Tally) :
    (ending.count step output tally).records =
      tally.records ++ (ending.record? step output).toList := by
  rw [count_eq]

theorem written_count (ending : Ending) (tally : Tally) :
    (ending.count step output tally).written =
      tally.written + if some ending.outcome = some .written then 1 else 0 := by
  cases ending <;> rfl

/-- A tally stays clean just if the step leaves no record. -/
theorem isClean_count (ending : Ending) (tally : Tally) :
    (ending.count step output tally).isClean =
      (tally.isClean && (ending.record? step output).isNone) := by
  cases ending with
  | written path => exact (Bool.and_true _).symm
  | skipped reason => simp [count, record?, Tally.isClean, Tally.addSkipped]
  | failed reason => simp [count, record?, Tally.isClean, Tally.addFailed]

end Ending

namespace Operation

variable {site : Site} {p : Progress} {op : Operation} {ops : List Operation}

/-- The record that an operation leaves, if it is tallied and does not write anything. -/
def record? (site : Site) (tree : File.Tree) : Operation → Option StepRecord
  | .collect mode step output call =>
      (Ending.settle mode output site.bundle tree (site.cluster.answer call)).1.record? step
        (some output)
  | .save step output content =>
      (Ending.settle .replace output site.bundle tree (.ok content)).1.record? step (some output)
  | .skip step reason => some { step, outcome := .skipped, reason }
  | .fail step reason => some { step, outcome := .failed, reason }
  | .ask _ | .makeDirectory .. | .reset _ | .reread _ => none

/-- How an operation comes out if all goes well. -/
def intended? (op : Operation) : Option Outcome := if op.isTallied then some .written else none

/-- What is not tallied leaves the tally alone. -/
theorem perform_tally (h : op.isTallied = false) : (op.perform site p).tally = p.tally := by
  cases op with
  | collect | save | skip | fail => cases h
  | ask | reread => rfl
  | makeDirectory pod path =>
      simp only [perform, act, Collect.podDirectory, Collect.on_bind, Collect.on_inTree]
      cases (site.bundle.createDirectory p.tree path).1 <;> rfl
  | reset path =>
      simp only [perform, act, Collect.resetSummary, Collect.on_bind, Collect.on_inTree]
      cases (site.bundle.write p.tree path []).1 <;> rfl

/-- What an operation adds to the records. -/
theorem perform_records :
    (op.perform site p).tally.records = p.tally.records ++ (op.record? site p.tree).toList := by
  cases op with
  | collect mode step output call =>
      simp only [perform, act, Collect.on_bind, Collect.on_ask, Collect.on_finish,
        Collect.on_pure, record?]
      exact Ending.records_count _ _
  | save step output content =>
      simp only [perform, act, Collect.write, Collect.on_map, Collect.on_finish, record?]
      exact Ending.records_count _ _
  | skip step reason | fail step reason => rfl
  | ask | reread | makeDirectory | reset =>
      rw [perform_tally rfl]
      exact (List.append_nil _).symm

/-- An operation leaves a clean tally clean just if it leaves no record. -/
theorem perform_isClean :
    (op.perform site p).tally.isClean =
      (p.tally.isClean && (op.record? site p.tree).isNone) := by
  cases op with
  | collect mode step output call =>
      simp only [perform, act, Collect.on_bind, Collect.on_ask, Collect.on_finish,
        Collect.on_pure, record?]
      exact Ending.isClean_count _ _
  | save step output content =>
      simp only [perform, act, Collect.write, Collect.on_map, Collect.on_finish, record?]
      exact Ending.isClean_count _ _
  | skip step reason =>
      simp [perform, act, record?, Tally.isClean, Tally.addSkipped]
  | fail step reason => simp [perform, act, record?, Tally.isClean, Tally.addFailed]
  | ask | reread | makeDirectory | reset =>
      rw [perform_tally rfl]
      exact (Bool.and_true _).symm

/-- An operation that comes out as written is counted as such, and no other is. -/
theorem perform_written :
    (op.perform site p).tally.written =
      p.tally.written + if op.outcome? site p = some .written then 1 else 0 := by
  cases op with
  | collect mode step output call =>
      simp only [perform, outcome?, act, Collect.on_bind, Collect.on_ask, Collect.on_finish,
        Collect.on_pure]
      exact Ending.written_count _ _
  | save step output content =>
      simp only [perform, outcome?, act, Collect.write, Collect.on_map, Collect.on_finish]
      exact Ending.written_count _ _
  | skip step reason | fail step reason => rfl
  | ask | reread | makeDirectory | reset =>
      rw [perform_tally rfl]
      rfl

/-- There is no record of an operation just if it came out as it was meant to. -/
theorem record?_eq_none_iff :
    op.record? site p.tree = none ↔ op.outcome? site p = op.intended? := by
  cases op with
  | collect mode step output call =>
      simp only [record?, Ending.record?_eq_none_iff, outcome?, act, Collect.on_bind,
        Collect.on_ask, Collect.on_finish, Collect.on_pure, intended?, isTallied, if_true,
        Option.some_inj]
  | save step output content =>
      simp only [record?, Ending.record?_eq_none_iff, outcome?, act, Collect.write,
        Collect.on_map, Collect.on_finish, intended?, isTallied, if_true, Option.some_inj]
  | skip step reason | fail step reason => simp [record?, outcome?, act, intended?, isTallied]
  | ask | reread | makeDirectory | reset => exact ⟨fun _ => rfl, fun _ => rfl⟩

theorem performAll_written :
    (performAll site p ops).tally.written =
      p.tally.written + ((trace site p ops).map Prod.snd).count (some .written) := by
  induction ops generalizing p with
  | nil => rfl
  | cons op ops ih =>
      rw [performAll_cons, ih, perform_written, trace, List.map_cons, List.count_cons]
      simp only [beq_iff_eq]
      omega

/-- Every record was there before or is left by one of the operations. -/
theorem mem_records_performAll {r : StepRecord}
    (h : r ∈ (performAll site p ops).tally.records) :
    r ∈ p.tally.records ∨ ∃ op ∈ ops, ∃ tree, op.record? site tree = some r := by
  induction ops generalizing p with
  | nil => exact .inl h
  | cons op ops ih =>
      rcases ih h with h | ⟨other, hother, hrecord⟩
      · rw [perform_records, List.mem_append, Option.mem_toList] at h
        rcases h with h | h
        · exact .inl h
        · exact .inr ⟨op, List.mem_cons_self, p.tree, h⟩
      · exact .inr ⟨other, List.mem_cons_of_mem _ hother, hrecord⟩

/-- Records are only added. -/
theorem records_prefix_performAll :
    p.tally.records <+: (performAll site p ops).tally.records := by
  induction ops generalizing p with
  | nil => exact List.prefix_refl _
  | cons op ops ih =>
      refine List.IsPrefix.trans ?_ ih
      rw [perform_records]
      exact List.prefix_append _ _

/-- Each operation of a script is performed at some point of it, and the record that it leaves there
is kept. -/
theorem performed_of_mem (hop : op ∈ ops) :
    ∃ q, (op, op.outcome? site q) ∈ trace site p ops ∧
      ∀ r, op.record? site q.tree = some r → r ∈ (performAll site p ops).tally.records := by
  induction ops generalizing p with
  | nil => cases hop
  | cons other ops ih =>
      rcases List.mem_cons.1 hop with rfl | hop
      · refine ⟨p, List.mem_cons_self, fun r hr => ?_⟩
        have hkept : (op.perform site p).tally.records <+:
            (performAll site p (op :: ops)).tally.records := records_prefix_performAll
        refine hkept.subset ?_
        rw [perform_records, hr]
        exact List.mem_append_right _ (List.mem_singleton_self r)
      · obtain ⟨q, hmoment, hkept⟩ := @ih (other.perform site p) hop
        exact ⟨q, List.mem_cons_of_mem _ hmoment, hkept⟩

/-- What is tallied is written or leaves a record. -/
theorem written_or_recorded (hop : op ∈ ops) (htallied : op.isTallied = true) :
    (op, some Outcome.written) ∈ trace site p ops ∨
      ∃ r ∈ (performAll site p ops).tally.records, ∃ tree, op.record? site tree = some r := by
  obtain ⟨q, hmoment, hkept⟩ := @performed_of_mem site p op ops hop
  cases hrecord : op.record? site q.tree with
  | none =>
      have houtcome := record?_eq_none_iff.1 hrecord
      rw [intended?, if_pos htallied] at houtcome
      exact .inl (houtcome ▸ hmoment)
  | some r => exact .inr ⟨r, hkept r hrecord, q.tree, hrecord⟩

/-- The step that an operation tallies, with the place in the bundle that it is for. -/
def noted? : Operation → Option (Step × Option String)
  | .collect _ step output _ | .save step output _ => some (step, some output)
  | .skip step _ | .fail step _ => some (step, none)
  | .ask _ | .makeDirectory .. | .reset _ | .reread _ => none

/-- A record is about the step of its operation. -/
theorem noted?_of_record? {tree : File.Tree} {r : StepRecord}
    (h : op.record? site tree = some r) : op.noted? = some (r.step, r.output) := by
  cases op with
  | collect | save =>
      obtain ⟨hstep, -, houtput, -⟩ := Ending.of_record? h
      rw [hstep, houtput]
      rfl
  | skip | fail =>
      cases h
      rfl
  | ask | reread | makeDirectory | reset => cases h

/-- The tally is clean in the end just if it was before and every operation came out as it was
meant to. -/
theorem performAll_isClean :
    (performAll site p ops).tally.isClean = true ↔
      p.tally.isClean = true ∧ trace site p ops = ops.map fun op => (op, op.intended?) := by
  induction ops generalizing p with
  | nil => simp [trace]
  | cons op ops ih =>
      rw [performAll_cons, ih, perform_isClean, Bool.and_eq_true, Option.isNone_iff_eq_none,
        record?_eq_none_iff, trace, List.map_cons, List.cons.injEq, Prod.mk.injEq]
      simp only [true_and, and_assoc]

/-- If a tally is clean just when it has no record, it stays so. -/
theorem performAll_isClean_iff_records
    (h : p.tally.isClean = true ↔ p.tally.records = []) :
    (performAll site p ops).tally.isClean = true ↔
      (performAll site p ops).tally.records = [] := by
  induction ops generalizing p with
  | nil => exact h
  | cons op ops ih =>
      refine ih ?_
      rw [perform_isClean, perform_records, Bool.and_eq_true, h, List.append_eq_nil_iff]
      cases op.record? site p.tree <;> simp

/-- What is recorded was skipped or has failed. -/
theorem outcome_of_record? {tree : File.Tree} {r : StepRecord}
    (h : op.record? site tree = some r) : r.outcome = .skipped ∨ r.outcome = .failed := by
  have hending : ∀ {ending : Ending} {step : Step} {output : Option String},
      ending.record? step output = some r → r.outcome = .skipped ∨ r.outcome = .failed := by
    intro ending step output hr
    cases ending with
    | written path => cases hr
    | skipped reason =>
        cases hr
        exact .inl rfl
    | failed reason =>
        cases hr
        exact .inr rfl
  cases op with
  | collect | save => exact hending h
  | skip =>
      cases h
      exact .inl rfl
  | fail =>
      cases h
      exact .inr rfl
  | ask | reread | makeDirectory | reset => cases h

end Operation

end ClusterBundle
