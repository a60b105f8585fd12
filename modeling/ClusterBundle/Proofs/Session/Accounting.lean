import ClusterBundle.Proofs.Session.Basic

/-!
What the tally and the log say about a session.

The tally counts outcomes and keeps records, and an observer is told of every step. These are three
accounts of the same turns, each kept in a place of its own. `takeAll_eq` says what a whole session
adds to each of them, and `Accounted` draws up what follows: they agree with each other and with
the outcomes that the entry points returned.
-/

namespace ClusterBundle

/-- The outcome that an event tells of, if it is an event about a step. -/
def Event.outcome? (event : Event) : Option Outcome :=
  match event.fields.lookup "event" with
  | some "step_written" => some .written
  | some "step_skipped" => some .skipped
  | some "step_failed" => some .failed
  | _ => none

/-- The event that tells of a step that did not write anything. -/
def StepRecord.event (r : StepRecord) : Event :=
  if r.outcome = .skipped then Tally.skippedEvent r.step r.reason
  else Tally.failedEvent r.step r.reason

namespace Ending

variable {step : Step} {output : Option String}

@[simp] theorem outcome?_event (ending : Ending) :
    (ending.event step).outcome? = some ending.outcome := by
  cases ending <;> rfl

/-- Every event about a step begins with what was done to which object. -/
theorem take_fields_event (ending : Ending) :
    (ending.event step).fields.take 5 =
      Tally.stepFields s!"step_{ending.outcome.text}" step := by
  cases ending <;> rfl

theorem record?_eq_none_iff (ending : Ending) :
    ending.record? step output = none ↔ ending.outcome = .written := by
  cases ending <;> simp [record?, outcome]

/-- What is recorded was not written. -/
theorem outcome_ne_of_record? {ending : Ending} {r : StepRecord}
    (h : ending.record? step output = some r) : ending.outcome ≠ .written := by
  intro hwritten
  rw [(record?_eq_none_iff ending).2 hwritten] at h
  cases h

theorem of_record? {ending : Ending} {r : StepRecord}
    (h : ending.record? step output = some r) :
    r.step = step ∧ r.outcome = ending.outcome ∧ r.output = output ∧
      r.event = ending.event step := by
  cases ending with
  | written path => cases h
  | skipped reason | failed reason =>
      cases h
      exact ⟨rfl, rfl, rfl, rfl⟩

/-- What a tally becomes, field by field. -/
theorem count_eq (ending : Ending) (tally : Tally) :
    ending.count step output tally =
      { written := tally.written + if ending.outcome = .written then 1 else 0
        skipped := tally.skipped + if ending.outcome = .skipped then 1 else 0
        failed := tally.failed + if ending.outcome = .failed then 1 else 0
        records := tally.records ++ (ending.record? step output).toList } := by
  cases ending <;>
    simp [count, outcome, record?, Tally.addWritten, Tally.addSkipped, Tally.addFailed]

end Ending

namespace Entry

variable {site : Site} {tree : File.Tree}

/-- An entry is skipped just if its request was answered with absence, or if it is the note of a
skipped step. -/
theorem effect_outcome_skipped_iff (entry : Entry) :
    (entry.effect site tree).1.outcome = .skipped ↔
      (∃ call failure, entry.call? = some call ∧ site.cluster.answer call = .error failure ∧
        failure.isNotFound = true) ∨
      ∃ step reason, entry = .noteSkipped step reason := by
  cases entry with
  | get | appendGet | exec | logs | fetch =>
      simp [effect, Ending.settle_outcome_skipped_iff, call?]
  | write => simp [effect, Ending.settle_outcome_skipped_iff, call?]
  | noteSkipped | noteFailed => simp [effect, Ending.outcome, call?]

/-- What the bundle does not take is a failure. -/
theorem effect_outcome_of_refused {entry : Entry} {output : String} {content : Bytes}
    {fault : Bundle.Fault} (houtput : entry.output? = some output)
    (hgiven : entry.given? site.cluster = some (.ok content))
    (hput : (entry.mode.put output content site.bundle tree).1 = .error fault) :
    (entry.effect site tree).1.outcome = .failed := by
  rw [effect_of_given houtput hgiven]
  rcases hresult : entry.mode.put output content site.bundle tree with ⟨result, after⟩
  obtain rfl : result = .error fault := by rw [← hput, hresult]
  simp only [Ending.settle, hresult, Ending.outcome]

end Entry

namespace Turn

variable {bundle : Bundle} {p : Progress}

/-- What one turn adds to the tally and the log. -/
theorem take_snd_eq (turn : Turn) :
    let moment := turn.moment bundle p
    let q := (turn.take bundle p).2
    q.tally.written = p.tally.written + (if moment.outcome = .written then 1 else 0) ∧
    q.tally.skipped = p.tally.skipped + (if moment.outcome = .skipped then 1 else 0) ∧
    q.tally.failed = p.tally.failed + (if moment.outcome = .failed then 1 else 0) ∧
    q.tally.records = p.tally.records ++ (moment.record? bundle).toList ∧
    q.log = p.log ++ (moment.notices ++ [moment.event bundle]) := by
  simp only [moment, take_eq, Entry.after, Ending.count_eq, Moment.record?, Moment.ending,
    Moment.notices, Moment.event, List.append_assoc]
  exact ⟨rfl, rfl, rfl, rfl, rfl⟩

/-- What a session adds to the tally and the log. The induction is on the turns, and each account
is carried along by what one turn adds to it. -/
theorem takeAll_eq (turns : List Turn) :
    let moments := trace bundle p turns
    let q := takeAll bundle p turns
    q.tally.written = p.tally.written + moments.countP (·.outcome = .written) ∧
    q.tally.skipped = p.tally.skipped + moments.countP (·.outcome = .skipped) ∧
    q.tally.failed = p.tally.failed + moments.countP (·.outcome = .failed) ∧
    q.tally.records = p.tally.records ++ moments.filterMap (Moment.record? bundle) ∧
    q.log = p.log ++ moments.flatMap (fun m => m.notices ++ [m.event bundle]) := by
  induction turns generalizing p with
  | nil => simp [trace]
  | cons turn turns ih =>
      obtain ⟨hwritten, hskipped, hfailed, hrecords, hlog⟩ := @take_snd_eq bundle p turn
      obtain ⟨ihwritten, ihskipped, ihfailed, ihrecords, ihlog⟩ :=
        @ih (turn.take bundle p).2
      simp only [trace, takeAll_cons, List.countP_cons, List.filterMap_cons, List.flatMap_cons,
        decide_eq_true_eq]
      refine ⟨?_, ?_, ?_, ?_, ?_⟩
      · rw [ihwritten, hwritten]
        omega
      · rw [ihskipped, hskipped]
        omega
      · rw [ihfailed, hfailed]
        omega
      · rw [ihrecords, hrecords, List.append_assoc]
        cases (turn.moment bundle p).record? bundle <;> rfl
      · rw [ihlog, hlog, List.append_assoc]

end Turn

/-- That the accounts of a session agree: `tally` and `log` are what is left behind by turns of
which `moments` was seen. -/
structure Accounted (bundle : Bundle) (turns : List Turn) (moments : List Moment) (tally : Tally)
    (log : List Event) : Prop where
  /-- Every turn was seen, in order. -/
  turns_eq : moments.map (·.turn) = turns
  total_eq : tally.total = turns.length
  written_eq : tally.written = moments.countP (·.outcome = .written)
  skipped_eq : tally.skipped = moments.countP (·.outcome = .skipped)
  failed_eq : tally.failed = moments.countP (·.outcome = .failed)
  /-- The records are those of the turns that did not write anything, in order, and each has the
  output that its entry collects for, if that collects. -/
  records_eq : tally.records.map (fun r => (r.step, r.outcome, r.output)) =
    (moments.filter (·.outcome ≠ .written)).map fun m =>
      (m.turn.entry.step, m.outcome, m.turn.entry.output?)
  skipped_records : tally.skipped = tally.records.countP (·.outcome = .skipped)
  failed_records : tally.failed = tally.records.countP (·.outcome = .failed)
  isClean_iff : tally.isClean = true ↔ tally.records = []
  /-- An entry is skipped just if the client said that there is nothing, or by a note. -/
  skipped_iff : ∀ m ∈ moments, m.outcome = .skipped ↔
    (∃ call failure, m.turn.entry.call? = some call ∧
      m.turn.cluster.answer call = .error failure ∧ failure.isNotFound = true) ∨
    ∃ step reason, m.turn.entry = .noteSkipped step reason
  /-- What the bundle does not take is a failure. -/
  failed_of_refused : ∀ m ∈ moments, ∀ output content fault,
    m.turn.entry.output? = some output →
    m.turn.entry.given? m.turn.cluster = some (.ok content) →
    (m.turn.entry.mode.put output content bundle m.before).1 = .error fault → m.outcome = .failed
  /-- Each turn tells of its step once, after what the client tells of its request. -/
  log_eq : log = moments.flatMap fun m => m.notices ++ [m.event bundle]
  event_fields : ∀ m ∈ moments, (m.event bundle).outcome? = some m.outcome ∧
    (m.event bundle).fields.take 5 =
      Tally.stepFields s!"step_{m.outcome.text}" m.turn.entry.step
  /-- Unless a client speaks of steps as well, the events about steps are those of the turns. -/
  told_eq : (∀ m ∈ moments, ∀ e ∈ m.notices, e.outcome? = none) →
    log.filter (·.outcome?.isSome) = moments.map (Moment.event bundle) ∧
      log.filter (fun e => e.outcome?.isSome && e.outcome? ≠ some .written) =
        tally.records.map StepRecord.event

namespace Moment

variable {bundle : Bundle} {moments : List Moment}

/-- What is known of each record from its moment is known of all the records from the moments that
did not write anything. -/
theorem map_filterMap_record? {α : Type} (f : StepRecord → α) (g : Moment → α)
    (hfits : ∀ m ∈ moments, m.Fits bundle)
    (h : ∀ m ∈ moments, ∀ r, m.record? bundle = some r → f r = g m) :
    (moments.filterMap (record? bundle)).map f =
      (moments.filter (·.outcome ≠ .written)).map g := by
  induction moments with
  | nil => rfl
  | cons m moments ih =>
      obtain ⟨hm, hmoments⟩ := List.forall_mem_cons.1 h
      obtain ⟨hfit, hfits⟩ := List.forall_mem_cons.1 hfits
      specialize ih hfits hmoments
      cases hrecord : m.record? bundle with
      | none =>
          have hwritten : m.outcome = .written :=
            hfit.outcome_eq.trans ((Ending.record?_eq_none_iff _).1 hrecord)
          rw [List.filterMap_cons_none hrecord, ih, List.filter_cons_of_neg (by simp [hwritten])]
      | some r =>
          have hwritten : m.outcome ≠ .written :=
            hfit.outcome_eq ▸ Ending.outcome_ne_of_record? hrecord
          rw [List.filterMap_cons_some hrecord, List.filter_cons_of_pos (by simp [hwritten]),
            List.map_cons, List.map_cons, hm r hrecord, ih]

/-- An outcome other than a write is recorded as often as it was seen. -/
theorem countP_filterMap_record? (hfits : ∀ m ∈ moments, m.Fits bundle) {outcome : Outcome}
    (h : outcome ≠ .written) :
    (moments.filterMap (record? bundle)).countP (·.outcome = outcome) =
      moments.countP (·.outcome = outcome) := by
  have houtcomes :
      (moments.filterMap (record? bundle)).map (·.outcome) =
        (moments.filter (·.outcome ≠ .written)).map (·.outcome) :=
    map_filterMap_record? _ _ hfits fun m hm r hr =>
      (Ending.of_record? hr).2.1.trans (hfits m hm).outcome_eq.symm
  calc (moments.filterMap (record? bundle)).countP (·.outcome = outcome)
      = ((moments.filterMap (record? bundle)).map (·.outcome)).countP (· = outcome) := by
        rw [List.countP_map]
        rfl
    _ = ((moments.filter (·.outcome ≠ .written)).map (·.outcome)).countP (· = outcome) := by
        rw [houtcomes]
    _ = moments.countP (·.outcome = outcome) := by
        rw [List.countP_map, List.countP_filter]
        refine List.countP_congr fun m _ => ?_
        simp only [Function.comp_apply, Bool.and_eq_true, decide_eq_true_eq]
        exact ⟨And.left, fun hm => ⟨hm, hm ▸ h⟩⟩

/-- Every moment has one of the three outcomes. -/
theorem countP_outcomes (moments : List Moment) :
    moments.countP (·.outcome = .written) + moments.countP (·.outcome = .skipped) +
      moments.countP (·.outcome = .failed) = moments.length := by
  induction moments with
  | nil => rfl
  | cons m moments ih =>
      simp only [List.countP_cons, List.length_cons]
      cases m.outcome <;> simp <;> omega

/-- If clients do not tell of anything that is kept, what is kept is told by the turns. -/
theorem filter_told (keep : Event → Bool)
    (h : ∀ m ∈ moments, ∀ e ∈ m.notices, keep e = false) :
    (moments.flatMap fun m => m.notices ++ [m.event bundle]).filter keep =
      (moments.filter fun m => keep (m.event bundle)).map (event bundle) := by
  induction moments with
  | nil => rfl
  | cons m moments ih =>
      obtain ⟨hm, hmoments⟩ := List.forall_mem_cons.1 h
      have hnotices : m.notices.filter keep = [] :=
        List.filter_eq_nil_iff.2 fun e he => by simp [hm e he]
      rw [List.flatMap_cons, List.filter_append, List.filter_append, ih hmoments, hnotices]
      cases hkeep : keep (m.event bundle) <;> simp [hkeep]

end Moment

/-- A tally counts as clean just if it has no record, when its counts are those of its records. -/
theorem Tally.isClean_iff_of_records {tally : Tally}
    (hskipped : tally.skipped = tally.records.countP (·.outcome = .skipped))
    (hfailed : tally.failed = tally.records.countP (·.outcome = .failed))
    (hwritten : ∀ r ∈ tally.records, r.outcome ≠ .written) :
    tally.isClean = true ↔ tally.records = [] := by
  simp only [isClean, Bool.and_eq_true, decide_eq_true_eq, hskipped, hfailed,
    List.countP_eq_zero]
  constructor
  · rintro ⟨hskipped, hfailed⟩
    refine List.eq_nil_iff_forall_not_mem.2 fun r hr => ?_
    cases houtcome : r.outcome with
    | written => exact hwritten r hr houtcome
    | skipped => exact hskipped r hr houtcome
    | failed => exact hfailed r hr houtcome
  · intro h
    simp [h]

/-- Whatever uses are made of the entry points, and whatever clusters and files they meet, the
tally and the log of a new collection account for them. -/
theorem Turn.accounted (bundle : Bundle) (tree : File.Tree) (turns : List Turn) :
    Accounted bundle turns (trace bundle { tree } turns) (takeAll bundle { tree } turns).tally
      (takeAll bundle { tree } turns).log := by
  obtain ⟨hwritten, hskipped, hfailed, hrecords, hlog⟩ := @takeAll_eq bundle { tree } turns
  have hfits := @fits_of_mem_trace bundle { tree } turns
  have hturns := @map_turn_trace bundle { tree } turns
  simp only [Nat.zero_add, List.nil_append] at hwritten hskipped hfailed hrecords hlog
  generalize trace bundle { tree } turns = moments at *
  generalize (takeAll bundle { tree } turns).tally = tally at *
  generalize (takeAll bundle { tree } turns).log = log at *
  have hskippedRecords : tally.skipped = tally.records.countP (·.outcome = .skipped) := by
    rw [hskipped, hrecords, Moment.countP_filterMap_record? hfits (by decide)]
  have hfailedRecords : tally.failed = tally.records.countP (·.outcome = .failed) := by
    rw [hfailed, hrecords, Moment.countP_filterMap_record? hfits (by decide)]
  have hrecord : ∀ r ∈ tally.records, ∃ m ∈ moments, m.record? bundle = some r :=
    fun r hr => List.mem_filterMap.1 (hrecords ▸ hr)
  exact {
    turns_eq := hturns
    total_eq := by
      rw [Tally.total, hwritten, hskipped, hfailed, Moment.countP_outcomes, ← hturns,
        List.length_map]
    written_eq := hwritten
    skipped_eq := hskipped
    failed_eq := hfailed
    records_eq := by
      rw [hrecords]
      refine Moment.map_filterMap_record? _ _ hfits fun m hm r hr => ?_
      obtain ⟨hstep, houtcome, houtput, -⟩ := Ending.of_record? hr
      rw [hstep, houtcome, houtput, (hfits m hm).outcome_eq]
    skipped_records := hskippedRecords
    failed_records := hfailedRecords
    isClean_iff := by
      refine Tally.isClean_iff_of_records hskippedRecords hfailedRecords fun r hr => ?_
      obtain ⟨m, -, hm⟩ := hrecord r hr
      rw [(Ending.of_record? hm).2.1]
      exact Ending.outcome_ne_of_record? hm
    skipped_iff := fun m hm => by
      rw [(hfits m hm).outcome_eq]
      exact Entry.effect_outcome_skipped_iff _
    failed_of_refused := fun m hm output content fault houtput hgiven hput => by
      rw [(hfits m hm).outcome_eq]
      exact Entry.effect_outcome_of_refused houtput hgiven hput
    log_eq := hlog
    event_fields := fun m hm => by
      rw [(hfits m hm).outcome_eq]
      exact ⟨Ending.outcome?_event _, Ending.take_fields_event _⟩
    told_eq := fun hquiet => by
      constructor
      · rw [hlog, Moment.filter_told _ fun m hm e he => by rw [hquiet m hm e he]; rfl]
        rw [List.filter_eq_self.2 fun m hm => by simp [Moment.event]]
      · rw [hlog, Moment.filter_told _ fun m hm e he => by simp [hquiet m hm e he], hrecords]
        rw [Moment.map_filterMap_record? _ (Moment.event bundle) hfits fun m hm r hr =>
          (Ending.of_record? hr).2.2.2]
        congr 1
        refine List.filter_congr fun m hm => ?_
        simp [Moment.event, (hfits m hm).outcome_eq, Moment.ending] }

end ClusterBundle
