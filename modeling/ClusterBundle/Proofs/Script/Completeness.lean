import ClusterBundle.Console.Summary
import ClusterBundle.Proofs.Script.Outputs
import ClusterBundle.Proofs.Script.Records

/-!
How complete the collection of an installation is.

The second stage is to collect the objects of six kinds, each of them twice, and the logs of the
operator. Whatever of it is not written leaves a record, so that the tally is not clean and the
banner of the run says that something is missing. There is one exception: what a subscription that
was found does not name is left out without a record.
-/

namespace ClusterBundle

open Cluster (Query)
open Operation (Only)

/-- The banner of a run whose tally is not clean says that something is missing. -/
theorem Console.banner_of_not_clean (colours : Bool) {report : Report}
    (h : report.tally.isClean = false) :
    ∃ text rest, banner colours report =
      message colours .warning (text ++ " (some data is missing, see below)") ++ rest := by
  simp only [banner, h, Bool.false_eq_true, if_false]
  exact ⟨_, _, rfl⟩

namespace Install

/-- Something that the second stage is to collect: the objects of a kind, for a file. -/
structure Artefact where
  kind : String
  name : String
  mode : Collect.Mode := .replace
  deriving Repr, DecidableEq

def objects : List Artefact :=
  [{ kind := "subscription", name := "subscription.yaml" },
    { kind := "catalogsource", name := "catalogsource.yaml" },
    { kind := "installplan", name := "installplan.yaml" },
    { kind := "clusterserviceversion", name := "csv.yaml" },
    { kind := "deployment", name := "deployment.yaml" },
    { kind := "pod", name := "pod.yaml" }]

/-- The sections of the summary, one for each kind. -/
def sections : List Artefact :=
  objects.map fun object => { kind := object.kind, name := "summary.txt", mode := .append }

/-- A record that says that the subscription is missing. -/
def NotesSubscription (r : StepRecord) : Prop := r.step.kind = "subscription" ∧ r.output = none

namespace Artefact

/-- The operation that collects an artefact by a query. -/
def operation (target : Target) (artefact : Artefact) (query : Query) : Operation :=
  .collect artefact.mode (.ofQuery query) (file target artefact.name) (.get query)

def WrittenIn (target : Target) (moments : List (Operation × Option Outcome))
    (artefact : Artefact) : Prop :=
  ∃ query : Query, query.kind = artefact.kind ∧
    (artefact.operation target query, some Outcome.written) ∈ moments

/-- A record says that an artefact is missing or, for what the subscription has to name, that the
subscription is. -/
def Concerns (target : Target) (r : StepRecord) (artefact : Artefact) : Prop :=
  r.step.kind = artefact.kind ∧ r.output = some (file target artefact.name) ∨
    (artefact.kind = "catalogsource" ∨ artefact.kind = "installplan") ∧ NotesSubscription r

end Artefact

/-- Of the two kinds that a subscription has to name the objects of, whether it does. -/
def Names (references : References) (kind : String) : Prop :=
  (kind = "catalogsource" → references.catalog.isSome) ∧
    (kind = "installplan" → references.plan.isSome)

/-- The subscription is there, but it does not name the objects of a kind. -/
def Omits (cluster : Cluster) (target : Target) (kind : String) : Prop :=
  ∃ list references, cluster.document (labeled target "subscription") = .ok list ∧
    references? list = some references ∧ ¬ Names references kind

/-- The log of a deployment that the cluster lists. -/
def logOperation (cluster : Cluster) (target : Target) (deployment : String) : Operation :=
  .logs (.workload target.ns s!"deployment/{deployment}")
    (file target (logFile (listed cluster target) deployment))

def LogWritten (cluster : Cluster) (target : Target)
    (moments : List (Operation × Option Outcome)) : Prop :=
  ∃ deployment ∈ listed cluster target,
    (logOperation cluster target deployment, some Outcome.written) ∈ moments

/-- A record says that a log is missing, or the list of deployments. -/
def LogConcerns (cluster : Cluster) (target : Target) (r : StepRecord) : Prop :=
  r.step = step target "list" "deployment" ∨ r.step = step target "logs" "deployment" ∨
    ∃ deployment ∈ listed cluster target,
      r.output = some (file target (logFile (listed cluster target) deployment))

/-- Everything that the second stage is to collect was written. -/
structure Complete (cluster : Cluster) (target : Target)
    (moments : List (Operation × Option Outcome)) : Prop where
  artefacts : ∀ artefact ∈ objects ++ sections, artefact.WrittenIn target moments
  log : LogWritten cluster target moments

/-! ### What is in the script -/

variable {cluster : Cluster} {target : Target} {references : References} {artefact : Artefact}

theorem mem_known {query : Query} {output : String} {wanted : Option Query}
    (h : wanted = some query) : Operation.get query output ∈ known wanted output := by
  rw [h]
  exact List.mem_singleton_self _

/-- The query for the objects of a kind, as far as the references name them. -/
def query? (target : Target) (references : References) (kind : String) : Option Query :=
  if kind = "catalogsource" then catalogQuery? target references
  else if kind = "installplan" then planQuery? target references
  else some (labeled target kind)

theorem query?_kind {kind : String} {query : Query}
    (h : query? target references kind = some query) : query.kind = kind := by
  unfold query? at h
  split at h
  · obtain ⟨name, -, rfl⟩ := Option.map_eq_some_iff.1 h
    exact Eq.symm ‹_›
  · split at h
    · obtain ⟨name, -, rfl⟩ := Option.map_eq_some_iff.1 h
      exact Eq.symm ‹_›
    · cases h
      rfl

theorem query?_isSome {kind : String} :
    (query? target references kind).isSome ↔ Names references kind := by
  unfold query? Names
  split
  · rename_i h
    subst h
    simp [catalogQuery?]
  · split
    · rename_i h
      subst h
      simp [planQuery?]
    · simp_all

theorem names_of_query? {kind : String} {query : Query}
    (h : query? target references kind = some query) : Names references query.kind := by
  rw [query?_kind h]
  exact query?_isSome.1 (Option.isSome_of_eq_some h)

/-- The other kinds need no name. -/
theorem names_of_ne {kind : String} (hcatalog : kind ≠ "catalogsource")
    (hplan : kind ≠ "installplan") : Names references kind :=
  ⟨fun h => absurd h hcatalog, fun h => absurd h hplan⟩

theorem mem_script_object (h : artefact ∈ objects) {query : Query}
    (hquery : query? target (foundReferences cluster target) artefact.kind = some query) :
    artefact.operation target query ∈ script cluster target := by
  simp only [objects, List.mem_cons, List.not_mem_nil, or_false] at h
  rcases h with rfl | rfl | rfl | rfl | rfl | rfl
  · cases hquery
    exact List.mem_cons_self
  all_goals
    refine List.mem_cons_of_mem _ (List.mem_cons_of_mem _ (List.mem_append_right _ ?_))
    refine List.mem_append_left _ ?_
  · exact List.mem_append_left _ (mem_known hquery)
  · exact List.mem_append_right _ (List.mem_append_left _ (mem_known hquery))
  all_goals
    cases hquery
    refine List.mem_append_right _ (List.mem_append_right _ ?_)
    simp [Artefact.operation, Operation.get]

/-- The kinds of the objects in the order of the summary. -/
def summaryKinds : List String :=
  ["catalogsource", "subscription", "installplan", "clusterserviceversion", "deployment", "pod"]

theorem summaryQueries_eq :
    summaryQueries target references = summaryKinds.filterMap (query? target references) := by
  have hqueries : summaryKinds.map (query? target references) =
      [catalogQuery? target references, some (labeled target "subscription"),
          planQuery? target references] ++
        ["clusterserviceversion", "deployment", "pod"].map fun kind =>
          some (labeled target kind) := rfl
  rw [summaryQueries, ← hqueries, List.filterMap_map]
  rfl

theorem mem_script_section (h : artefact ∈ sections) {query : Query}
    (hquery : query? target (foundReferences cluster target) artefact.kind = some query) :
    artefact.operation target (query.formatted .wide) ∈ script cluster target := by
  obtain ⟨object, hobject, rfl⟩ := List.mem_map.1 h
  have hkinds : ∀ object ∈ objects, object.kind ∈ summaryKinds := by decide
  have hmem : query ∈ summaryQueries target (foundReferences cluster target) := by
    rw [summaryQueries_eq]
    exact List.mem_filterMap.2 ⟨object.kind, hkinds object hobject, hquery⟩
  rw [script_eq]
  refine List.mem_append_right _ (List.mem_cons_of_mem _ ?_)
  exact List.mem_flatMap.2 ⟨query, hmem, List.mem_singleton_self _⟩

/-- What the references name stands in the script. -/
theorem exists_mem_script (h : artefact ∈ objects ++ sections)
    (hnames : Names (foundReferences cluster target) artefact.kind) :
    ∃ query : Query, query.kind = artefact.kind ∧
      artefact.operation target query ∈ script cluster target := by
  obtain ⟨query, hquery⟩ := Option.isSome_iff_exists.1 (query?_isSome.2 hnames)
  have hkind := query?_kind hquery
  rcases List.mem_append.1 h with h | h
  · exact ⟨query, hkind, mem_script_object h hquery⟩
  · exact ⟨query.formatted .wide, hkind, mem_script_section h hquery⟩

/-! ### What the script tallies -/

/-- What a step of the second stage can be: objects that a subscription has to name are looked at
only if it does, and it is tallied as missing only if it is. -/
def CanNote (cluster : Cluster) (target : Target) (noted : Step × Option String) : Prop :=
  Names (foundReferences cluster target) noted.1.kind ∧
    (noted.1.kind = "subscription" → noted.2 = none →
      ∀ list, cluster.document (labeled target "subscription") = .ok list →
        references? list = none)

theorem canNote_query {query : Query} {output : String}
    (h : Names (foundReferences cluster target) query.kind) :
    CanNote cluster target (.ofQuery query, some output) :=
  ⟨h, fun _ houtput => absurd houtput (Option.some_ne_none output)⟩

theorem known_canNote {kind output : String} :
    Only Operation.noted? (CanNote cluster target)
      (known (query? target (foundReferences cluster target) kind) output) := by
  cases hquery : query? target (foundReferences cluster target) kind with
  | none => exact .nil
  | some query => exact .having _ rfl (canNote_query (names_of_query? hquery)) .nil

theorem referencesNote_canNote :
    Only Operation.noted? (CanNote cluster target) (referencesNote cluster target) := by
  have hnames : Names (foundReferences cluster target) "subscription" :=
    names_of_ne (by decide) (by decide)
  unfold referencesNote
  cases hdocument : cluster.document (labeled target "subscription") with
  | error failure =>
      refine .having _ rfl ⟨hnames, fun _ _ list h => ?_⟩ .nil
      cases hdocument.symm.trans h
  | ok list =>
      dsimp only
      cases hreferences : references? list with
      | some references => exact .nil
      | none =>
          refine .having _ rfl ⟨hnames, fun _ _ other h => ?_⟩ .nil
          obtain rfl := Except.ok.inj (hdocument.symm.trans h)
          exact hreferences

theorem logsScript_canNote :
    Only Operation.noted? (CanNote cluster target) (logsScript cluster target) := by
  have hdeployment : ∀ action, CanNote cluster target (step target action "deployment", none) :=
    fun action => ⟨names_of_ne (show "deployment" ≠ _ by decide) (show "deployment" ≠ _ by decide),
      fun h => absurd h (show "deployment" ≠ _ by decide)⟩
  unfold logsScript
  cases cluster.deploymentNames target.ns target.selector with
  | error failure => exact .having _ rfl (hdeployment _) .nil
  | ok deployments =>
      dsimp only
      split
      · exact .having _ rfl (hdeployment _) .nil
      · exact .flatMap fun name _ => .having _ rfl
          ⟨names_of_ne (show "pod" ≠ _ by decide) (show "pod" ≠ _ by decide),
            fun h => absurd h (show "pod" ≠ _ by decide)⟩ .nil

theorem summaryScript_canNote :
    Only Operation.noted? (CanNote cluster target) (summaryScript cluster target) := by
  refine .without rfl (.flatMap fun query hquery => .having _ rfl ?_ .nil)
  rw [summaryQueries_eq] at hquery
  obtain ⟨kind, -, hquery⟩ := List.mem_filterMap.1 hquery
  exact canNote_query (show Names _ query.kind from names_of_query? hquery)

theorem script_canNote :
    Only Operation.noted? (CanNote cluster target) (script cluster target) := by
  have hlabeled : ∀ {kind output}, kind ≠ "catalogsource" → kind ≠ "installplan" →
      CanNote cluster target (.ofQuery (labeled target kind), some output) := by
    intro kind output hcatalog hplan
    exact canNote_query (names_of_ne hcatalog hplan)
  refine .having _ rfl (hlabeled (by decide) (by decide)) (.without rfl ?_)
  refine .append referencesNote_canNote (.append ?_ (.without rfl ?_))
  · refine .append (@known_canNote _ _ "catalogsource" _) ?_
    refine .append (@known_canNote _ _ "installplan" _) ?_
    refine .having _ rfl (hlabeled (by decide) (by decide)) ?_
    refine .having _ rfl (hlabeled (by decide) (by decide)) ?_
    exact .having _ rfl (hlabeled (by decide) (by decide)) .nil
  · exact .append logsScript_canNote summaryScript_canNote

/-! ### What is written and what is recorded -/

/-- What a subscription does not name is not named by what was found. -/
theorem Omits.not_names {kind : String} (h : Omits cluster target kind) :
    ¬ Names (foundReferences cluster target) kind := by
  obtain ⟨list, references, hdocument, hreferences, hnames⟩ := h
  rw [foundReferences, hdocument]
  simpa [hreferences] using hnames

/-- If what was found does not name the objects of a kind, it is because the subscription does not,
or else the script has a note about the subscription. -/
theorem omits_or_note {kind : String} (h : ¬ Names (foundReferences cluster target) kind) :
    Omits cluster target kind ∨ ∃ op ∈ script cluster target, ∃ r, NotesSubscription r ∧
      ∀ site tree, op.record? site tree = some r := by
  have hscript : ∀ op ∈ referencesNote cluster target, op ∈ script cluster target := by
    intro op hop
    exact List.mem_cons_of_mem _ (List.mem_cons_of_mem _ (List.mem_append_left _ hop))
  unfold referencesNote at hscript
  unfold foundReferences at h
  cases hdocument : cluster.document (labeled target "subscription") with
  | error failure =>
      rw [hdocument] at hscript
      exact .inr ⟨_, hscript _ (List.mem_singleton_self _), _, ⟨rfl, rfl⟩, fun _ _ => rfl⟩
  | ok list =>
      rw [hdocument] at h hscript
      dsimp only at h hscript
      cases hreferences : references? list with
      | some references =>
          rw [hreferences] at h
          exact .inl ⟨list, references, hdocument, hreferences, h⟩
      | none =>
          rw [hreferences] at hscript
          exact .inr ⟨_, hscript _ (List.mem_singleton_self _), _, ⟨rfl, rfl⟩, fun _ _ => rfl⟩

variable {site : Site} {p : Progress}

/-- What the subscription does not leave out is written or recorded. -/
theorem written_or_recorded (h : artefact ∈ objects ++ sections)
    (homits : ¬ Omits site.cluster target artefact.kind) :
    artefact.WrittenIn target (Operation.trace site p (script site.cluster target)) ∨
      ∃ r ∈ (Operation.performAll site p (script site.cluster target)).tally.records,
        artefact.Concerns target r := by
  by_cases hnames : Names (foundReferences site.cluster target) artefact.kind
  · obtain ⟨query, hkind, hop⟩ := exists_mem_script h hnames
    rcases @Operation.written_or_recorded site p _ _ hop rfl with hwritten | ⟨r, hr, tree, hrecord⟩
    · exact .inl ⟨query, hkind, hwritten⟩
    · have hnoted := Operation.noted?_of_record? hrecord
      obtain ⟨hstep, houtput⟩ := Prod.mk.inj (Option.some.inj hnoted)
      refine .inr ⟨r, hr, .inl ⟨?_, houtput.symm⟩⟩
      rw [← hstep]
      exact hkind
  · have hreferred : artefact.kind = "catalogsource" ∨ artefact.kind = "installplan" := by
      rcases Decidable.em (artefact.kind = "catalogsource") with hcatalog | hcatalog
      · exact .inl hcatalog
      · refine .inr (Decidable.of_not_not fun hplan => hnames ?_)
        exact names_of_ne hcatalog hplan
    rcases omits_or_note hnames with h | ⟨op, hop, r, hr, hrecord⟩
    · exact absurd h homits
    · obtain ⟨q, -, hkept⟩ := @Operation.performed_of_mem site p _ _ hop
      exact .inr ⟨r, hkept r (hrecord site q.tree), .inr ⟨hreferred, hr⟩⟩

/-- What the subscription leaves out is not written. -/
theorem not_omits_of_written
    (h : artefact.WrittenIn target (Operation.trace site p (script site.cluster target))) :
    ¬ Omits site.cluster target artefact.kind := by
  intro homits
  obtain ⟨query, hkind, hmoment⟩ := h
  have hop := List.mem_map_of_mem (f := Prod.fst) hmoment
  rw [Operation.map_fst_trace] at hop
  have hnames := (script_canNote _ hop _ rfl).1
  exact homits.not_names (hkind ▸ hnames)

/-- Nor does it leave a record. -/
theorem not_omits_of_recorded (hp : p.tally.records = []) {r : StepRecord}
    (hr : r ∈ (Operation.performAll site p (script site.cluster target)).tally.records)
    (h : artefact.Concerns target r) : ¬ Omits site.cluster target artefact.kind := by
  intro homits
  rcases Operation.mem_records_performAll hr with hr | ⟨op, hop, tree, hrecord⟩
  · rw [hp] at hr
    cases hr
  obtain ⟨hnames, hmissing⟩ := script_canNote op hop _ (Operation.noted?_of_record? hrecord)
  rcases h with ⟨hkind, -⟩ | ⟨-, hkind, houtput⟩
  · exact homits.not_names (hkind ▸ hnames)
  · obtain ⟨list, references, hdocument, hreferences, -⟩ := homits
    rw [hmissing hkind houtput list hdocument] at hreferences
    cases hreferences

theorem mem_script_of_mem_logsScript {op : Operation} (h : op ∈ logsScript site.cluster target) :
    op ∈ script site.cluster target := by
  refine List.mem_cons_of_mem _ (List.mem_cons_of_mem _ (List.mem_append_right _ ?_))
  exact List.mem_append_right _ (List.mem_cons_of_mem _ (List.mem_append_left _ h))

/-- Each of the three forms of the stage has an operation that collects a log or says why not. -/
theorem exists_log_operation :
    ∃ op ∈ script site.cluster target,
      (∃ deployment ∈ listed site.cluster target,
        op = logOperation site.cluster target deployment) ∨
      ∃ r, LogConcerns site.cluster target r ∧ ∀ tree, op.record? site tree = some r := by
  have hscript {op : Operation} := @mem_script_of_mem_logsScript target site op
  unfold logsScript at hscript
  cases hnames : site.cluster.deploymentNames target.ns target.selector with
  | error failure =>
      rw [hnames] at hscript
      exact ⟨_, hscript (List.mem_singleton_self _), .inr ⟨_, .inl rfl, fun _ => rfl⟩⟩
  | ok deployments =>
      have hlisted : listed site.cluster target = deployments := by
        rw [listed, hnames]
        rfl
      rw [hnames] at hscript
      dsimp only at hscript
      cases deployments with
      | nil =>
          exact ⟨_, hscript (List.mem_singleton_self _),
            .inr ⟨_, .inr (.inl rfl), fun _ => rfl⟩⟩
      | cons deployment rest =>
          have hmem : deployment ∈ listed site.cluster target := by
            rw [hlisted]
            exact List.mem_cons_self
          refine ⟨logOperation site.cluster target deployment, hscript ?_,
            .inl ⟨deployment, hmem, rfl⟩⟩
          rw [logOperation, hlisted]
          exact List.mem_cons_self

/-- A log is written, or it is recorded why not. -/
theorem log_written_or_recorded :
    LogWritten site.cluster target (Operation.trace site p (script site.cluster target)) ∨
      ∃ r ∈ (Operation.performAll site p (script site.cluster target)).tally.records,
        LogConcerns site.cluster target r := by
  obtain ⟨op, hop, ⟨deployment, hdeployment, rfl⟩ | ⟨r, hr, hrecord⟩⟩ :=
    @exists_log_operation target site
  · rcases @Operation.written_or_recorded site p _ _ hop rfl with hwritten | ⟨r, hr, tree, hrecord⟩
    · exact .inl ⟨deployment, hdeployment, hwritten⟩
    · have hnoted := Operation.noted?_of_record? hrecord
      have houtput := (Prod.mk.inj (Option.some.inj hnoted)).2
      exact .inr ⟨r, hr, .inr (.inr ⟨deployment, hdeployment, houtput.symm⟩)⟩
  · obtain ⟨q, -, hkept⟩ := @Operation.performed_of_mem site p _ _ hop
    exact .inr ⟨r, hkept r (hrecord q.tree), hr⟩

/-! ### The account of the stage -/

/-- The second stage accounts for everything that it is to collect but for what the subscription
leaves out. -/
structure Accounts (site : Site) (p : Progress) (target : Target) : Prop where
  /-- What became of the stage can be read off its operations. -/
  performs : Performs site p (Collect.install target) () (script site.cluster target)
  artefacts : ∀ artefact ∈ objects ++ sections,
    (artefact.WrittenIn target (Operation.trace site p (script site.cluster target)) ∨
      ∃ r ∈ ((Collect.install target).on site p).2.tally.records, artefact.Concerns target r) ↔
      ¬ Omits site.cluster target artefact.kind
  log : LogWritten site.cluster target (Operation.trace site p (script site.cluster target)) ∨
    ∃ r ∈ ((Collect.install target).on site p).2.tally.records, LogConcerns site.cluster target r
  /-- A record is a reason not to call the tally clean. -/
  records : ∀ r ∈ ((Collect.install target).on site p).2.tally.records,
    r.outcome = .skipped ∨ r.outcome = .failed
  clean_iff : ((Collect.install target).on site p).2.tally.isClean = true ↔
    ((Collect.install target).on site p).2.tally.records = []
  /-- So a clean stage is a complete one just if the subscription names everything. -/
  complete_iff : ((Collect.install target).on site p).2.tally.isClean = true →
    (Complete site.cluster target (Operation.trace site p (script site.cluster target)) ↔
      ∀ artefact ∈ objects ++ sections, ¬ Omits site.cluster target artefact.kind)
  /-- If the subscription names everything, the end of a run says whether something is missing,
  whatever else is done in it. -/
  warns : (∀ artefact ∈ objects ++ sections, ¬ Omits site.cluster target artefact.kind) →
    ¬ Complete site.cluster target (Operation.trace site p (script site.cluster target)) →
    ∀ (more : List Operation) (report : Report) (colours : Bool),
      report.tally =
        (Operation.performAll site ((Collect.install target).on site p).2 more).tally →
      ∃ text rest, Console.banner colours report =
        Console.message colours .warning (text ++ " (some data is missing, see below)") ++ rest

/-- A stage that leaves no record is complete but for what the subscription leaves out. -/
theorem complete_of_records
    (hclean : (Operation.performAll site p (script site.cluster target)).tally.records = [])
    (homits : ∀ artefact ∈ objects ++ sections, ¬ Omits site.cluster target artefact.kind) :
    Complete site.cluster target (Operation.trace site p (script site.cluster target)) := by
  constructor
  · intro artefact h
    rcases @written_or_recorded target artefact site p h (homits artefact h) with hwritten | hrecord
    · exact hwritten
    · obtain ⟨r, hr, -⟩ := hrecord
      simp [hclean] at hr
  · rcases @log_written_or_recorded target site p with hwritten | ⟨r, hr, -⟩
    · exact hwritten
    · simp [hclean] at hr

/-- Whatever a cluster answers and whatever the bundle looks like, the second stage accounts for
what it collects. -/
theorem install_accounts (site : Site) (p : Progress) (target : Target) (hp : p.tally = {}) :
    Accounts site p target := by
  have hperforms := @Performs.install site p target
  have htally := (Progress.silent_eq_iff.1 hperforms.2).2.1
  have hrecords : p.tally.records = [] := by rw [hp]
  have hclean : ((Collect.install target).on site p).2.tally.isClean = true ↔
      ((Collect.install target).on site p).2.tally.records = [] := by
    rw [htally]
    exact Operation.performAll_isClean_iff_records (by rw [hp]; simp [Tally.isClean])
  refine
    { performs := hperforms
      artefacts := fun artefact h => ⟨?_, fun homits => ?_⟩
      log := htally ▸ log_written_or_recorded
      records := fun r hr => ?_
      clean_iff := hclean
      complete_iff := fun h => ⟨fun hcomplete artefact hmem => ?_, fun homits => ?_⟩
      warns := fun homits hcomplete more report colours hreport => ?_ }
  · rintro (hwritten | ⟨r, hr, hconcerns⟩)
    · exact not_omits_of_written hwritten
    · exact not_omits_of_recorded hrecords (htally ▸ hr) hconcerns
  · rw [htally]
    exact written_or_recorded h homits
  · rw [htally] at hr
    rcases Operation.mem_records_performAll hr with hr | ⟨op, -, tree, hrecord⟩
    · simp [hrecords] at hr
    · exact Operation.outcome_of_record? hrecord
  · exact not_omits_of_written (hcomplete.artefacts artefact hmem)
  · exact complete_of_records (htally ▸ hclean.1 h) homits
  · have hstage : ((Collect.install target).on site p).2.tally.isClean = false := by
      refine Bool.eq_false_iff.2 fun h => hcomplete ?_
      exact complete_of_records (htally ▸ hclean.1 h) homits
    refine Console.banner_of_not_clean colours (Bool.eq_false_iff.2 fun h => ?_)
    rw [hreport, Operation.performAll_isClean, hstage] at h
    exact Bool.false_ne_true h.1

/-- A cluster that answers every request with a list of one object. -/
def clusterListing (object : String) : Cluster where
  answer _ := .ok (Utf8.encode ("\x7b\"items\":[" ++ object ++ "]\x7d"))

/-- A cluster whose one object names a catalog source and an install plan. -/
def clusterNaming : Cluster :=
  clusterListing ("\x7b\"metadata\":\x7b\"name\":\"s\"\x7d,\"spec\":\x7b\"source\":\"c\"\x7d," ++
    "\"status\":\x7b\"installplan\":\x7b\"name\":\"i\"\x7d\x7d\x7d")

/-- A cluster whose one object has nothing but a name. -/
def clusterNotNaming : Cluster := clusterListing "\x7b\"metadata\":\x7b\"name\":\"s\"\x7d\x7d"

/-- The theorem at a stage in which everything is named and written. -/
theorem install_accounts_naming :
    ((Collect.install ⟨"o", "n", "/b"⟩).on { cluster := clusterNaming, bundle := { root := "/b" } }
        { tree := ⟨[(["b"], .directory)]⟩ }).2.tally.isClean = true ∧
      Complete clusterNaming ⟨"o", "n", "/b"⟩
        (Operation.trace { cluster := clusterNaming, bundle := { root := "/b" } }
          { tree := ⟨[(["b"], .directory)]⟩ } (script clusterNaming ⟨"o", "n", "/b"⟩)) := by
  have hclean : ((Collect.install ⟨"o", "n", "/b"⟩).on
      { cluster := clusterNaming, bundle := { root := "/b" } }
      { tree := ⟨[(["b"], .directory)]⟩ }).2.tally.isClean = true := by decide +kernel
  have hreferences : (clusterNaming.document (labeled ⟨"o", "n", "/b"⟩ "subscription")).toOption.map
      references? = some (some { catalog := some "c", plan := some "i" }) := by decide +kernel
  refine ⟨hclean, ((install_accounts _ _ _ rfl).complete_iff hclean).2 ?_⟩
  rintro artefact - ⟨list, references, hdocument, hsome, hnames⟩
  rw [hdocument] at hreferences
  obtain rfl := Option.some.inj (hsome.symm.trans (Option.some.inj hreferences))
  exact hnames ⟨fun _ => rfl, fun _ => rfl⟩

/-- A clean stage that is not complete: the subscription names neither a catalog source nor an
install plan, and nothing but an event says so. -/
theorem install_clean_and_incomplete :
    ((Collect.install ⟨"o", "n", "/b"⟩).on
        { cluster := clusterNotNaming, bundle := { root := "/b" } }
        { tree := ⟨[(["b"], .directory)]⟩ }).2.tally.isClean = true ∧
      ¬ Complete clusterNotNaming ⟨"o", "n", "/b"⟩
        (Operation.trace { cluster := clusterNotNaming, bundle := { root := "/b" } }
          { tree := ⟨[(["b"], .directory)]⟩ } (script clusterNotNaming ⟨"o", "n", "/b"⟩)) ∧
      ((Collect.install ⟨"o", "n", "/b"⟩).on
        { cluster := clusterNotNaming, bundle := { root := "/b" } }
        { tree := ⟨[(["b"], .directory)]⟩ }).2.tree.find? ["b", "o-info", "catalogsource.yaml"] =
          none := by
  have hreferences : (clusterNotNaming.document
      (labeled ⟨"o", "n", "/b"⟩ "subscription")).toOption.map references? =
        some (some {}) := by decide +kernel
  refine ⟨by decide +kernel, fun hcomplete => ?_, by decide +kernel⟩
  refine not_omits_of_written (hcomplete.artefacts
    { kind := "catalogsource", name := "catalogsource.yaml" } (by decide)) ?_
  cases hdocument : clusterNotNaming.document (labeled ⟨"o", "n", "/b"⟩ "subscription") with
  | error failure =>
      rw [hdocument] at hreferences
      cases hreferences
  | ok list =>
      rw [hdocument] at hreferences
      exact ⟨list, {}, hdocument, Option.some.inj hreferences, fun hnames => by
        cases hnames.1 rfl⟩

end Install

end ClusterBundle
