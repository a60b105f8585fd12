import ClusterBundle.Proofs.Script.Reach

/-!
The phases of a run and its gates.

A run goes through the same phases whatever a cluster answers; only the one before the last says
whether monitoring could be reached. Some requests, however, are made only where something else
came out well before. Such a gate is a statement about the trace of a run: in front of every moment
that makes the request stands the moment that opens the gate.
-/

namespace ClusterBundle

open Cluster (Reach)
open Operation (Within)

/-- If something is not in the front part of a list, then all of that part stands before it. -/
theorem front_before {α : Type} {front rest before after : List α} {x : α}
    (h : front ++ rest = before ++ x :: after) (hx : x ∉ front) :
    ∃ between, before = front ++ between ∧ rest = between ++ x :: after := by
  rcases List.append_eq_append_iff.1 h with ⟨between, hbefore, hrest⟩ | ⟨tail, hfront, htail⟩
  · exact ⟨between, hbefore, hrest⟩
  · cases tail with
    | nil => exact ⟨[], by simpa using hfront.symm, by simpa using htail.symm⟩
    | cons y tail =>
        obtain rfl : x = y := (List.cons.inj htail).1
        exact absurd (hfront ▸ List.mem_append_right _ (List.mem_cons_self)) hx

namespace Operation

variable {site : Site} {p : Progress} {ops : List Operation} {op : Operation}
  {moment : Operation × Option Outcome}

theorem fst_mem_of_mem_trace (h : moment ∈ trace site p ops) : moment.1 ∈ ops := by
  rw [← @map_fst_trace site p ops]
  exact List.mem_map_of_mem h

theorem exists_mem_trace (h : op ∈ ops) : ∃ moment ∈ trace site p ops, moment.1 = op := by
  rw [← @map_fst_trace site p ops] at h
  exact List.mem_map.1 h

/-- Moments that reach something outside of the limits of some operations are not theirs. -/
theorem Within.not_mem_trace {reaches : List Reach} (h : Within reaches ops) {reach : Reach}
    (hreach : reach ∉ reaches) (hmoment : moment.1.Reaches reach) :
    moment ∉ trace site p ops :=
  fun hmem => h.not_reaches hreach (fst_mem_of_mem_trace hmem) hmoment

end Operation

namespace Run

section

variable (cluster : Cluster) (target : Target) (settings : Settings) (tree : File.Tree)

/-- A run keeps to its order: it goes through the phases one by one, and each request that hangs
on something is made only where that came out well. -/
structure Orderly : Prop where
  /-- The requests of a run are those of its trace. -/
  calls : (run cluster target settings tree).2.calls =
    (trace cluster target settings tree).filterMap fun moment => moment.1.call?
  /-- What a run leaves behind is what the operations of its trace leave behind. -/
  performed : (run cluster target settings tree).2.silent =
    (Operation.performAll (site cluster target) { tree }
      ((trace cluster target settings tree).map Prod.fst)).silent
  phases : (run cluster target settings tree).1.phases =
    [.start, .lifecycle, .install, .instances, .exporter, .monitoringAccess,
      if (run cluster target settings tree).1.monitoringCollected then .monitoring
      else .monitoringSkipped, .done]
  /-- The user-facing resources are looked at exactly if the internal ones were written. -/
  resources_iff :
    (∃ moment ∈ trace cluster target settings tree,
        moment.1.Reaches (.objects Instances.kind)) ↔
      (Instances.internals, some Outcome.written) ∈ trace cluster target settings tree
  /-- And they are looked at only behind them. -/
  resources_behind : ∀ before moment after,
    trace cluster target settings tree = before ++ moment :: after →
    moment.1.Reaches (.objects Instances.kind) →
      (Instances.internals, some Outcome.written) ∈ before
  /-- The exporter's stage is a part of the trace. It makes requests exactly if the namespace of
  the workload is known, and nothing else is run in the containers of the exporter. -/
  exporter : ∃ before after,
    (trace cluster target settings tree).map Prod.fst =
        before ++ (Exporter.script cluster
          (run cluster target settings tree).1.workloadNamespace ++ after) ∧
      Performs (site cluster target) (Operation.performAll (site cluster target) { tree } before)
        (Collect.exporter (run cluster target settings tree).1.workloadNamespace) ()
        (Exporter.script cluster (run cluster target settings tree).1.workloadNamespace) ∧
      ((Exporter.script cluster (run cluster target settings tree).1.workloadNamespace).filterMap
          Operation.call? ≠ [] ↔
        (run cluster target settings tree).1.workloadNamespace.isSome) ∧
      ∀ op ∈ before ++ after, ¬ op.Reaches (.container Exporter.containerName)
  exporter_known :
    (∃ moment ∈ trace cluster target settings tree,
        moment.1.Reaches (.container Exporter.containerName)) →
      (run cluster target settings tree).1.workloadNamespace.isSome
  /-- What is behind an address or in a monitoring container is looked at only behind the four
  reads, all of which found what they were for, and behind the certificates being written. -/
  monitoring_behind : ∀ before moment after,
    trace cluster target settings tree = before ++ moment :: after →
    moment.1.Reaches .address ∨ moment.1.Reaches (.container Monitoring.containerName) →
      ∃ access certificates, Monitoring.found cluster settings = .ok (access, certificates) ∧
        (∀ call ∈ [Monitoring.routeCall settings, Monitoring.tokenCall settings,
            Monitoring.podsCall settings, Monitoring.certificatesCall settings],
          (.ask call, none) ∈ before) ∧
        (Monitoring.saving settings certificates, some Outcome.written) ∈ before
  collected_iff_phase : (run cluster target settings tree).1.monitoringCollected = true ↔
    .monitoring ∈ (run cluster target settings tree).1.phases
  collected_iff_discovery : (run cluster target settings tree).1.monitoringCollected = true ↔
    ∃ access, discovery cluster target settings tree = .ok access
  /-- If monitoring cannot be reached, the last thing that is tallied says why. -/
  skipped : ∀ fault, discovery cluster target settings tree = .error fault →
    (run cluster target settings tree).2.tally.records.getLast? =
      some { step := monitoringStep, outcome := .skipped, reason := fault.message }

end

variable {cluster : Cluster} {target : Target} {settings : Settings} {tree : File.Tree}

theorem map_fst_trace :
    (trace cluster target settings tree).map Prod.fst = script cluster target settings tree :=
  Operation.map_fst_trace _

/-! ### What the parts of a run reach -/

/-- What the first two stages reach. -/
def openingReaches : List Reach := Lifecycle.reaches ++ Install.reaches

/-- What the last two stages reach. -/
def monitoringReaches : List Reach := Monitoring.accessReaches ++ Monitoring.reaches

theorem opening_within : Within openingReaches (opening cluster target) :=
  .append ((Lifecycle.script_within target).mono fun _ h => List.mem_append_left _ h)
    ((Install.script_within cluster target).mono fun _ h => List.mem_append_right _ h)

theorem closing_within : Within Monitoring.reaches (closing cluster target settings tree) := by
  unfold closing
  split
  · exact Monitoring.script_within _ _ _ _
  · exact .without rfl .nil

theorem monitoring_within :
    Within monitoringReaches
      (Monitoring.accessScript cluster settings ++ closing cluster target settings tree) :=
  .append ((Monitoring.accessScript_within _ _).mono fun _ h => List.mem_append_left _ h)
    (closing_within.mono fun _ h => List.mem_append_right _ h)

/-- What the stages before monitoring reach. -/
def preparationReaches : List Reach :=
  openingReaches ++ (.objects Instances.kind :: Instances.reaches) ++ Exporter.reaches

theorem preparation_within :
    Within preparationReaches (preparation cluster target settings tree) := by
  refine .append (opening_within.mono (by decide)) (.append ?_ ?_)
  · exact (Instances.script_within _ _ _).mono (by decide)
  · exact (Exporter.script_within _ _).mono (by decide)

/-! ### The gate of the user-facing resources -/

/-- What is done behind the internal resources. -/
def behindInternals (cluster : Cluster) (target : Target) (settings : Settings)
    (tree : File.Tree) : List Operation :=
  (if internalsCollected cluster target tree then
      Instances.resources ::
        (Instances.namespaceReads cluster ++ Instances.namespaceNote cluster settings)
    else
      [.skip { action := "get", kind := Instances.kind, name := "*" }
        "internal resources unavailable"]) ++
    (Exporter.script cluster (workloadNamespace cluster target settings tree) ++
      (Monitoring.accessScript cluster settings ++ closing cluster target settings tree))

theorem script_eq_internals :
    script cluster target settings tree =
      opening cluster target ++
        Instances.internals :: behindInternals cluster target settings tree := by
  simp only [script, preparation, Instances.script, behindInternals, List.append_assoc,
    List.cons_append]

/-- The trace of a run, cut at the internal resources. -/
theorem trace_eq_internals :
    ∃ outcome q, trace cluster target settings tree =
        (Operation.trace (site cluster target) { tree } (opening cluster target) ++
          [(Instances.internals, outcome)]) ++
        Operation.trace (site cluster target) q (behindInternals cluster target settings tree) ∧
      (internalsCollected cluster target tree = true ↔ outcome = some .written) := by
  let start := Operation.performAll (site cluster target) { tree } (opening cluster target)
  refine ⟨Instances.internals.outcome? (site cluster target) start,
    Instances.internals.perform (site cluster target) start, ?_, decide_eq_true_iff⟩
  unfold trace
  rw [script_eq_internals, Operation.trace_append, List.append_assoc]
  rfl

/-- If the internal resources were not collected, nothing of the kind is looked at again. -/
theorem behindInternals_within (h : internalsCollected cluster target tree = false) :
    Within (Exporter.reaches ++ monitoringReaches)
      (behindInternals cluster target settings tree) := by
  unfold behindInternals
  rw [h]
  refine .append (.without rfl .nil) (.append ?_ ?_)
  · exact (Exporter.script_within _ _).mono fun _ h => List.mem_append_left _ h
  · exact monitoring_within.mono fun _ h => List.mem_append_right _ h

theorem resources_behind (before after : List (Operation × Option Outcome))
    (moment : Operation × Option Outcome)
    (h : trace cluster target settings tree = before ++ moment :: after)
    (hmoment : moment.1.Reaches (.objects Instances.kind)) :
    (Instances.internals, some Outcome.written) ∈ before := by
  -- the moment does not lie in front of the cut, so the internal resources do
  obtain ⟨outcome, q, htrace, hgate⟩ := @trace_eq_internals cluster target settings tree
  have hfront : moment ∉ Operation.trace (site cluster target) { tree } (opening cluster target) ++
      [(Instances.internals, outcome)] := by
    rw [List.mem_append, List.mem_singleton]
    rintro (hmem | rfl)
    · exact opening_within.not_mem_trace (by decide) hmoment hmem
    · exact Instances.internals_within.not_reaches (by decide) (List.mem_singleton_self _) hmoment
  obtain ⟨between, rfl, hrest⟩ := front_before (htrace.symm.trans h) hfront
  have hcollected : internalsCollected cluster target tree = true := by
    -- were it not so, nothing behind the internal resources could make such a request
    cases hgated : internalsCollected cluster target tree with
    | true => rfl
    | false =>
        have hmem : moment ∈ Operation.trace (site cluster target) q
            (behindInternals cluster target settings tree) := by
          rw [hrest]
          exact List.mem_append_right _ (List.mem_cons_self)
        exact absurd hmem ((behindInternals_within hgated).not_mem_trace (by decide) hmoment)
  obtain rfl := hgate.1 hcollected
  exact List.mem_append_left _ (List.mem_append_right _ (List.mem_singleton_self _))

theorem resources_of_written
    (h : (Instances.internals, some Outcome.written) ∈ trace cluster target settings tree) :
    ∃ moment ∈ trace cluster target settings tree,
      moment.1.Reaches (.objects Instances.kind) := by
  -- the moment can only be the one at which the trace is cut
  obtain ⟨outcome, q, htrace, hgate⟩ := @trace_eq_internals cluster target settings tree
  have hinternals : Instances.internals.Reaches (.objects Instances.internalKind) := rfl
  have hcollected : internalsCollected cluster target tree = true := by
    cases hgated : internalsCollected cluster target tree with
    | true => rfl
    | false =>
        rw [htrace, List.mem_append, List.mem_append, List.mem_singleton] at h
        rcases h with (h | h) | h
        · exact absurd h (opening_within.not_mem_trace (by decide) hinternals)
        · have hwritten : outcome = some .written := (Prod.ext_iff.1 h).2.symm
          exact absurd (hgate.2 hwritten) (by simp [hgated])
        · exact absurd h ((behindInternals_within hgated).not_mem_trace (by decide) hinternals)
  have hresources : Instances.resources ∈ behindInternals cluster target settings tree := by
    simp [behindInternals, hcollected]
  obtain ⟨moment, hmem, hop⟩ :=
    @Operation.exists_mem_trace (site cluster target) q _ _ hresources
  refine ⟨moment, htrace ▸ List.mem_append_right _ hmem, ?_⟩
  rw [hop]
  rfl

/-! ### The gate of the exporter -/

theorem exporter_calls_ne_nil (cluster : Cluster) (ns : Option String) :
    (Exporter.script cluster ns).filterMap Operation.call? ≠ [] ↔ ns.isSome := by
  cases ns with
  | none => simp [Exporter.script]
  | some ns =>
      simp [Exporter.script, Exporter.objectsScript, Operation.get, Operation.call?]

theorem outside_exporter (op : Operation)
    (hop : op ∈ (opening cluster target ++
        Instances.script cluster settings (internalsCollected cluster target tree)) ++
      (Monitoring.accessScript cluster settings ++ closing cluster target settings tree)) :
    ¬ op.Reaches (.container Exporter.containerName) := by
  rw [List.append_assoc, List.mem_append, List.mem_append] at hop
  rcases hop with hop | hop | hop
  · exact opening_within.not_reaches (by decide) hop
  · exact (Instances.script_within _ _ _).not_reaches (by decide) hop
  · exact monitoring_within.not_reaches (by decide) hop

theorem script_eq_exporter :
    script cluster target settings tree =
      (opening cluster target ++
          Instances.script cluster settings (internalsCollected cluster target tree)) ++
        (Exporter.script cluster (workloadNamespace cluster target settings tree) ++
          (Monitoring.accessScript cluster settings ++ closing cluster target settings tree)) := by
  simp only [script, preparation, List.append_assoc]

theorem exporter_known {moment : Operation × Option Outcome}
    (hmem : moment ∈ trace cluster target settings tree)
    (hmoment : moment.1.Reaches (.container Exporter.containerName)) :
    (workloadNamespace cluster target settings tree).isSome := by
  have hop : moment.1 ∈ script cluster target settings tree :=
    Operation.fst_mem_of_mem_trace hmem
  have houtside := @outside_exporter cluster target settings tree moment.1
  rw [script_eq_exporter] at hop
  cases hns : workloadNamespace cluster target settings tree with
  | some ns => rfl
  | none =>
      rw [hns] at hop
      rcases List.mem_append.1 hop with hop | hop
      · exact absurd hmoment (houtside (List.mem_append_left _ hop))
      · exact absurd hmoment (houtside (List.mem_append_right _ hop))

/-! ### The gate of monitoring -/

/-- With an access, everything that it hangs on is in the trace of the stage that found it. -/
theorem found_of_access {access : Monitoring.Access}
    (h : Run.access cluster target settings tree = .ok access) :
    ∃ certificates, Monitoring.found cluster settings = .ok (access, certificates) ∧
      Operation.trace (site cluster target) (prepared cluster target settings tree)
          (Monitoring.accessScript cluster settings) =
        [(.ask (Monitoring.routeCall settings), none),
          (.ask (Monitoring.tokenCall settings), none),
          (.ask (Monitoring.podsCall settings), none),
          (.ask (Monitoring.certificatesCall settings), none),
          (Monitoring.saving settings certificates, some .written)] := by
  obtain ⟨certificates, hfound, hsaved⟩ := Monitoring.access_eq_ok h
  refine ⟨certificates, hfound, ?_⟩
  unfold certificatesSaved at hsaved
  unfold Monitoring.accessScript
  rw [hfound, Operation.trace_append]
  rw [Monitoring.reads_of_found hfound] at hsaved ⊢
  simp only [Operation.trace, hsaved]
  rfl

theorem trace_eq_monitoring :
    ∃ q, trace cluster target settings tree =
      (Operation.trace (site cluster target) { tree } (preparation cluster target settings tree) ++
        Operation.trace (site cluster target) (prepared cluster target settings tree)
          (Monitoring.accessScript cluster settings)) ++
        Operation.trace (site cluster target) q (closing cluster target settings tree) := by
  refine ⟨Operation.performAll (site cluster target) (prepared cluster target settings tree)
    (Monitoring.accessScript cluster settings), ?_⟩
  unfold trace
  rw [script, Operation.trace_append, Operation.trace_append, List.append_assoc]
  rfl

theorem monitoring_behind (before after : List (Operation × Option Outcome))
    (moment : Operation × Option Outcome)
    (h : trace cluster target settings tree = before ++ moment :: after)
    (hmoment : moment.1.Reaches .address ∨
      moment.1.Reaches (.container Monitoring.containerName)) :
    ∃ access certificates, Monitoring.found cluster settings = .ok (access, certificates) ∧
      (∀ call ∈ [Monitoring.routeCall settings, Monitoring.tokenCall settings,
          Monitoring.podsCall settings, Monitoring.certificatesCall settings],
        (.ask call, none) ∈ before) ∧
      (Monitoring.saving settings certificates, some Outcome.written) ∈ before := by
  obtain ⟨q, htrace⟩ := @trace_eq_monitoring cluster target settings tree
  obtain ⟨reach, hreach, hreached⟩ :
      ∃ reach ∈ Monitoring.reaches, moment.1.Reaches reach := by
    rcases hmoment with hmoment | hmoment
    · exact ⟨_, by decide, hmoment⟩
    · exact ⟨_, by decide, hmoment⟩
  have houtside : reach ∉ preparationReaches ++ Monitoring.accessReaches := by
    have hdisjoint : ∀ reach ∈ Monitoring.reaches,
        reach ∉ preparationReaches ++ Monitoring.accessReaches := by decide
    exact hdisjoint reach hreach
  have hfront : moment ∉
      Operation.trace (site cluster target) { tree } (preparation cluster target settings tree) ++
        Operation.trace (site cluster target) (prepared cluster target settings tree)
          (Monitoring.accessScript cluster settings) := by
    rw [List.mem_append]
    rintro (hmem | hmem)
    · exact preparation_within.not_mem_trace
        (fun hin => houtside (List.mem_append_left _ hin)) hreached hmem
    · exact (Monitoring.accessScript_within _ _).not_mem_trace
        (fun hin => houtside (List.mem_append_right _ hin)) hreached hmem
  obtain ⟨between, rfl, hrest⟩ := front_before (htrace.symm.trans h) hfront
  -- what is left of the trace is that of the last stage, which hangs on the access
  have hmem : moment.1 ∈ closing cluster target settings tree := by
    refine @Operation.fst_mem_of_mem_trace (site cluster target) q _ _ ?_
    rw [hrest]
    exact List.mem_append_right _ (List.mem_cons_self)
  cases haccess : access cluster target settings tree with
  | error fault =>
      -- then a run only tallies that monitoring was left out
      simp only [closing, haccess, List.mem_singleton] at hmem
      rw [hmem] at hreached
      exact absurd hreached (Operation.not_reaches rfl reach)
  | ok access =>
      obtain ⟨certificates, hfound, hasked⟩ := found_of_access haccess
      refine ⟨access, certificates, hfound, ?_, ?_⟩
      · intro call hcall
        refine List.mem_append_left _ (List.mem_append_right _ ?_)
        rw [hasked]
        simp only [List.mem_cons, List.not_mem_nil, or_false] at hcall
        rcases hcall with rfl | rfl | rfl | rfl <;> simp
      · refine List.mem_append_left _ (List.mem_append_right _ ?_)
        rw [hasked]
        simp

/-! ### All together -/

theorem last_record {fault : Monitoring.Fault}
    (h : access cluster target settings tree = .error fault) :
    (run cluster target settings tree).2.tally.records.getLast? =
      some { step := monitoringStep, outcome := .skipped, reason := fault.message } := by
  have htally := (Progress.silent_eq_iff.1 (run_eq cluster target settings tree).2).2.1
  rw [htally, script, Operation.performAll_append, Operation.performAll_append]
  simp [closing, h, Operation.perform, Operation.act, Tally.addSkipped]

/-- Whatever a cluster answers and whatever was in the bundle before, a run keeps to its order. -/
theorem run_orderly (cluster : Cluster) (target : Target) (settings : Settings)
    (tree : File.Tree) : Orderly cluster target settings tree := by
  obtain ⟨hfindings, hsilent⟩ := run_eq cluster target settings tree
  have hcalls := (Progress.silent_eq_iff.1 hsilent).2.2
  have hphases : (run cluster target settings tree).1.phases =
      [.start, .lifecycle, .install, .instances, .exporter, .monitoringAccess,
        if (run cluster target settings tree).1.monitoringCollected then .monitoring
        else .monitoringSkipped, .done] := by
    rw [hfindings]
    rfl
  refine
    { calls := ?_
      performed := by rw [map_fst_trace, hsilent]
      phases := hphases
      resources_iff := ⟨?_, resources_of_written⟩
      resources_behind := fun before moment after => resources_behind before after moment
      exporter := ?_
      exporter_known := fun ⟨moment, hmem, hmoment⟩ => by
        rw [hfindings]
        exact exporter_known hmem hmoment
      monitoring_behind := fun before moment after => monitoring_behind before after moment
      collected_iff_phase := ?_
      collected_iff_discovery := ?_
      skipped := fun fault h => last_record (discovery_eq.symm.trans h) }
  · rw [hcalls, Operation.performAll_calls, ← map_fst_trace, List.filterMap_map]
    rfl
  · rintro ⟨moment, hmem, hmoment⟩
    obtain ⟨before, after, htrace⟩ := List.append_of_mem hmem
    rw [htrace]
    exact List.mem_append_left _ (resources_behind before after moment htrace hmoment)
  · refine ⟨opening cluster target ++
      Instances.script cluster settings (internalsCollected cluster target tree),
      Monitoring.accessScript cluster settings ++ closing cluster target settings tree, ?_,
      Performs.exporter _, exporter_calls_ne_nil _ _, outside_exporter⟩
    rw [map_fst_trace, hfindings]
    exact script_eq_exporter
  · rw [hphases]
    cases (run cluster target settings tree).1.monitoringCollected <;> simp
  · rw [hfindings, discovery_eq]
    simp only [findings]
    cases access cluster target settings tree <;> simp [Except.toBool]

end Run

end ClusterBundle
