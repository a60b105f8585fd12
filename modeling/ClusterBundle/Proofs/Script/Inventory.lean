import ClusterBundle.Proofs.Cluster.Listing
import ClusterBundle.Proofs.Script.Completeness

/-!
What the installation is looked at for.

The second stage asks twice about the objects of the installation: once for the objects themselves,
each kind in a file of its own, and once for a section of the summary. Both times it asks about the
same objects, whatever the subscription looks like. Besides it reads the logs of all deployments
that the cluster lists.
-/

namespace ClusterBundle

open Cluster (Call Failure Format LogSource NamesRead Query Selection)
open Operation (Only performAll)

namespace Cluster

/-- The objects that a query is about, whatever the form is that they are shown in. -/
structure Subject where
  kind : String
  selection : Selection
  ns : Option String
  deriving Repr, DecidableEq

def Query.subject (query : Query) : Subject :=
  { kind := query.kind, selection := query.selection, ns := query.ns }

/-- What a request shows in a form. -/
def Call.subject? (format : Format) : Call → Option Subject
  | .get query => if query.format = format then some query.subject else none
  | _ => none

/-- The log that a request reads. -/
def Call.source? : Call → Option LogSource
  | .logs source => some source
  | _ => none

end Cluster

namespace Operation

/-- The query that an operation makes, and what becomes of the answer: it is put somewhere or only
read. -/
def query? : Operation → Option (Query × Option (Collect.Mode × String))
  | .collect mode _ output (.get query) => some (query, some (mode, output))
  | .ask (.get query) => some (query, none)
  | _ => none

/-- What some operations ask to be shown in a form, in order. -/
def shown (format : Format) (ops : List Operation) : List Cluster.Subject :=
  (ops.filterMap call?).filterMap (Cluster.Call.subject? format)

/-- The logs that some operations read, in order. -/
def sources (ops : List Operation) : List LogSource :=
  (ops.filterMap call?).filterMap Cluster.Call.source?

/-- Records of a kind that none of the operations can leave stay as they are. -/
theorem filter_records_performAll {site : Site} {p : Progress} {ops : List Operation}
    (isMeant : Step → Option String → Bool)
    (h : Only noted? (fun noted => isMeant noted.1 noted.2 = false) ops) :
    (performAll site p ops).tally.records.filter (fun r => isMeant r.step r.output) =
      p.tally.records.filter (fun r => isMeant r.step r.output) := by
  induction ops generalizing p with
  | nil => rfl
  | cons op ops ih =>
      rw [performAll_cons, ih fun other hother => h other (List.mem_cons_of_mem _ hother),
        perform_records, List.filter_append]
      cases hrecord : op.record? site p.tree with
      | none => exact List.append_nil _
      | some r =>
          have hnot := h op List.mem_cons_self _ (noted?_of_record? hrecord)
          simp [hnot]

end Operation

namespace Install

/-! ### What the subscription names -/

/-- A path of a document leads to a text that is not empty. -/
def HasText (v : Json.Value) (path : List String) (text : String) : Prop :=
  v.at? path = some (.text text) ∧ text ≠ ""

/-- The first subscription of the list that a cluster answers with, if the answer can be read. -/
def IsFirst (cluster : Cluster) (target : Target) (subscription : Json.Value) : Prop :=
  ∃ bytes list, cluster.answer (subscriptionCall target) = .ok bytes ∧
    Json.read .any bytes = .ok list ∧ list.at? ["items", "0"] = some subscription

/-- The objects of an installation. -/
inductive Sought (cluster : Cluster) (target : Target) : Cluster.Subject → Prop where
  | labeled {kind : String}
      (hkind : kind ∈ ["subscription", "clusterserviceversion", "deployment", "pod"]) :
      Sought cluster target
        { kind, ns := some target.ns
          selection := .labeled s!"operators.coreos.com/{target.operator}.{target.ns}" }
  | catalog {subscription : Json.Value} {name ns : String}
      (hfirst : IsFirst cluster target subscription)
      (hname : HasText subscription ["spec", "source"] name)
      (hns : HasText subscription ["spec", "sourceNamespace"] ns ∨
        (∀ other, ¬ HasText subscription ["spec", "sourceNamespace"] other) ∧ ns = target.ns) :
      Sought cluster target { kind := "catalogsource", selection := .named name, ns := some ns }
  | plan {subscription : Json.Value} {name : String}
      (hfirst : IsFirst cluster target subscription)
      (hname : HasText subscription ["status", "installPlanRef", "name"] name ∨
        (∀ other, ¬ HasText subscription ["status", "installPlanRef", "name"] other) ∧
          HasText subscription ["status", "installplan", "name"] name) :
      Sought cluster target
        { kind := "installplan", selection := .named name, ns := some target.ns }

theorem textAt?_eq_none_iff {v : Json.Value} {path : List String} :
    v.textAt? path = none ↔ ∀ text, ¬ HasText v path text := by
  simp only [Option.eq_none_iff_forall_ne_some, ne_eq, Json.Value.textAt?_eq_some_iff, HasText]

/-- A text, or another one where there is none. -/
theorem textAt?_getD_eq_iff {v : Json.Value} {path : List String} {other text : String} :
    (v.textAt? path).getD other = text ↔
      HasText v path text ∨ (∀ found, ¬ HasText v path found) ∧ text = other := by
  cases h : v.textAt? path with
  | none =>
      have hnone := textAt?_eq_none_iff.1 h
      simp [hnone, eq_comm]
  | some found =>
      have hfound : HasText v path found := Json.Value.textAt?_eq_some_iff.1 h
      have hunique : ∀ {text}, HasText v path text ↔ found = text := by
        intro text
        rw [HasText, ← Json.Value.textAt?_eq_some_iff, h, Option.some_inj]
      simp [hunique]

/-- The text behind one path or, failing that, the text behind another. -/
theorem textAt?_or_eq_some_iff {v : Json.Value} {path other : List String} {text : String} :
    (v.textAt? path).or (v.textAt? other) = some text ↔
      HasText v path text ∨ (∀ found, ¬ HasText v path found) ∧ HasText v other text := by
  rw [Option.or_eq_some_iff, textAt?_eq_none_iff, Json.Value.textAt?_eq_some_iff,
    Json.Value.textAt?_eq_some_iff]
  rfl

variable {cluster : Cluster} {target : Target}

/-- What was found are the references of the first subscription. -/
theorem foundReferences_of_isFirst {subscription : Json.Value}
    (h : IsFirst cluster target subscription) :
    foundReferences cluster target =
      { catalog := subscription.textAt? ["spec", "source"]
        catalogNamespace := subscription.textAt? ["spec", "sourceNamespace"]
        plan := (subscription.textAt? ["status", "installPlanRef", "name"]).or
          (subscription.textAt? ["status", "installplan", "name"]) } := by
  obtain ⟨bytes, list, hanswer, hread, hfirst⟩ := h
  have hdocument : cluster.document (labeled target "subscription") = .ok list :=
    Cluster.document_eq_ok_iff.2 ⟨bytes, hanswer, hread⟩
  rw [foundReferences, hdocument]
  dsimp only
  rw [references?, hfirst]
  rfl

/-- If there is none, nothing was found. -/
theorem isFirst_or_foundReferences (cluster : Cluster) (target : Target) :
    (∃ subscription, IsFirst cluster target subscription) ∨
      foundReferences cluster target = {} := by
  unfold foundReferences
  cases hdocument : cluster.document (labeled target "subscription") with
  | error failure => exact .inr rfl
  | ok list =>
  dsimp only
  cases hfirst : list.at? ["items", "0"] with
  | none =>
      refine .inr ?_
      rw [references?, hfirst]
      rfl
  | some subscription =>
      obtain ⟨bytes, hanswer, hread⟩ := Cluster.document_eq_ok_iff.1 hdocument
      exact .inl ⟨subscription, bytes, list, hanswer, hread, hfirst⟩

theorem catalog_iff {name ns : String} :
    ((foundReferences cluster target).catalog = some name ∧
        (foundReferences cluster target).catalogNamespace.getD target.ns = ns) ↔
      ∃ subscription, IsFirst cluster target subscription ∧
        HasText subscription ["spec", "source"] name ∧
        (HasText subscription ["spec", "sourceNamespace"] ns ∨
          (∀ other, ¬ HasText subscription ["spec", "sourceNamespace"] other) ∧
            ns = target.ns) := by
  constructor
  · rintro ⟨hname, hns⟩
    rcases isFirst_or_foundReferences cluster target with ⟨subscription, hfirst⟩ | hnone
    · rw [foundReferences_of_isFirst hfirst] at hname hns
      exact ⟨subscription, hfirst, Json.Value.textAt?_eq_some_iff.1 hname,
        textAt?_getD_eq_iff.1 hns⟩
    · simp [hnone] at hname
  · rintro ⟨subscription, hfirst, hname, hns⟩
    rw [foundReferences_of_isFirst hfirst]
    exact ⟨Json.Value.textAt?_eq_some_iff.2 hname, textAt?_getD_eq_iff.2 hns⟩

theorem plan_iff {name : String} :
    (foundReferences cluster target).plan = some name ↔
      ∃ subscription, IsFirst cluster target subscription ∧
        (HasText subscription ["status", "installPlanRef", "name"] name ∨
          (∀ other, ¬ HasText subscription ["status", "installPlanRef", "name"] other) ∧
            HasText subscription ["status", "installplan", "name"] name) := by
  constructor
  · intro hname
    rcases isFirst_or_foundReferences cluster target with ⟨subscription, hfirst⟩ | hnone
    · rw [foundReferences_of_isFirst hfirst] at hname
      exact ⟨subscription, hfirst, textAt?_or_eq_some_iff.1 hname⟩
    · simp [hnone] at hname
  · rintro ⟨subscription, hfirst, hname⟩
    rw [foundReferences_of_isFirst hfirst]
    exact textAt?_or_eq_some_iff.2 hname

/-! ### What the two passes ask about -/

/-- The objects of some kinds, as far as they are known. -/
def subjects (cluster : Cluster) (target : Target) (kinds : List String) :
    List Cluster.Subject :=
  (kinds.filterMap (query? target (foundReferences cluster target))).map Query.subject

/-- The objects of an installation are those that there is a query for. -/
theorem sought_iff {subject : Cluster.Subject} :
    Sought cluster target subject ↔ subject.kind ∈ summaryKinds ∧
      (query? target (foundReferences cluster target) subject.kind).map Query.subject =
        some subject := by
  constructor
  · rintro (hkind | ⟨hfirst, hname, hns⟩ | ⟨hfirst, hname⟩)
    · have hkinds : ∀ kind ∈ ["subscription", "clusterserviceversion", "deployment", "pod"],
          kind ∈ summaryKinds := by decide
      refine ⟨hkinds _ hkind, ?_⟩
      simp only [List.mem_cons, List.not_mem_nil, or_false] at hkind
      rcases hkind with rfl | rfl | rfl | rfl <;> rfl
    · obtain ⟨hcatalog, rfl⟩ := catalog_iff.2 ⟨_, hfirst, hname, hns⟩
      refine ⟨(by decide : "catalogsource" ∈ summaryKinds), ?_⟩
      show (catalogQuery? target (foundReferences cluster target)).map Query.subject = _
      rw [catalogQuery?, hcatalog]
      rfl
    · have hplan := plan_iff.2 ⟨_, hfirst, hname⟩
      refine ⟨(by decide : "installplan" ∈ summaryKinds), ?_⟩
      show (planQuery? target (foundReferences cluster target)).map Query.subject = _
      rw [planQuery?, hplan]
      rfl
  · obtain ⟨kind, selection, ns⟩ := subject
    rintro ⟨hkind, hquery⟩
    simp only [summaryKinds, List.mem_cons, List.not_mem_nil, or_false] at hkind
    rcases hkind with rfl | rfl | rfl | rfl | rfl | rfl
    case inl =>
      obtain ⟨query, hcatalog, hsubject⟩ := Option.map_eq_some_iff.1 hquery
      obtain ⟨name, hname, rfl⟩ := Option.map_eq_some_iff.1 hcatalog
      obtain ⟨subscription, hfirst, hname, hns⟩ := catalog_iff.1 ⟨hname, rfl⟩
      cases hsubject
      exact .catalog hfirst hname hns
    case inr.inr.inl =>
      obtain ⟨query, hplan, hsubject⟩ := Option.map_eq_some_iff.1 hquery
      obtain ⟨name, hname, rfl⟩ := Option.map_eq_some_iff.1 hplan
      obtain ⟨subscription, hfirst, hname⟩ := plan_iff.1 hname
      cases hsubject
      exact .plan hfirst hname
    all_goals
      have hsubject := Option.some.inj hquery
      obtain rfl : Selection.labeled target.selector = selection :=
        congrArg Cluster.Subject.selection hsubject
      obtain rfl : some target.ns = ns := congrArg Cluster.Subject.ns hsubject
      exact .labeled (by decide)

theorem mem_subjects_iff {kinds : List String} (hkinds : kinds.Perm summaryKinds)
    {subject : Cluster.Subject} :
    subject ∈ subjects cluster target kinds ↔ Sought cluster target subject := by
  rw [sought_iff, subjects, List.mem_map, ← hkinds.mem_iff]
  constructor
  · rintro ⟨query, hquery, rfl⟩
    obtain ⟨kind, hkind, hquery⟩ := List.mem_filterMap.1 hquery
    have hsame : query.subject.kind = kind := query?_kind hquery
    rw [hsame, hquery]
    exact ⟨hkind, rfl⟩
  · rintro ⟨hkind, hquery⟩
    obtain ⟨query, hquery, hsubject⟩ := Option.map_eq_some_iff.1 hquery
    exact ⟨query, List.mem_filterMap.2 ⟨subject.kind, hkind, hquery⟩, hsubject⟩

/-- Objects of different kinds are different. -/
theorem nodup_subjects {kinds : List String} (hkinds : kinds.Nodup) :
    (subjects cluster target kinds).Nodup := by
  rw [subjects, List.map_filterMap]
  refine List.Pairwise.filterMap _
    (fun kind other hne subject hkind subject' hother heq => hne ?_) hkinds
  have hsame : ∀ {kind subject}, (query? target (foundReferences cluster target) kind).map
      Query.subject = some subject → subject.kind = kind := by
    intro kind subject h
    obtain ⟨query, hquery, rfl⟩ := Option.map_eq_some_iff.1 h
    exact query?_kind hquery
  rw [← hsame hkind, ← hsame hother, heq]

/-! ### What the script asks for -/

/-- The logs of the deployments that the cluster lists. -/
def logSources (cluster : Cluster) (target : Target) : List LogSource :=
  (listed cluster target).map fun name => .workload target.ns s!"deployment/{name}"

theorem calls_known (query : Option Query) (output : String) :
    (known query output).filterMap Operation.call? = query.toList.map .get := by
  cases query <;> rfl

theorem calls_referencesNote :
    (referencesNote cluster target).filterMap Operation.call? = [] := by
  unfold referencesNote
  split
  · rfl
  · split <;> rfl

theorem calls_logsScript :
    (logsScript cluster target).filterMap Operation.call? =
      (logSources cluster target).map .logs := by
  unfold logsScript logSources listed
  cases cluster.deploymentNames target.ns target.selector with
  | error failure => rfl
  | ok deployments =>
      cases deployments with
      | nil => rfl
      | cons first rest =>
          show ((first :: rest).flatMap _).filterMap _ = ((first :: rest).map _).map _
          rw [List.map_map, List.map_eq_flatMap, List.filterMap_flatMap]
          rfl

theorem calls_summaryScript :
    (summaryScript cluster target).filterMap Operation.call? =
      (summaryKinds.filterMap (query? target (foundReferences cluster target))).map
        fun query => .get (query.formatted .wide) := by
  rw [← summaryQueries_eq, List.map_eq_flatMap]
  show (List.flatMap _ _).filterMap _ = _
  rw [List.filterMap_flatMap]
  rfl

/-- The kinds of the objects in the order in which they are collected. -/
def objectKinds : List String :=
  ["subscription", "catalogsource", "installplan", "clusterserviceversion", "deployment", "pod"]

/-- The requests of the second stage: for the objects, for the logs and for the summary. Two more
are made to find out which objects and which logs there are. -/
theorem script_calls :
    (script cluster target).filterMap Operation.call? =
      .get (labeled target "subscription") :: subscriptionCall target ::
        (((objectKinds.drop 1).filterMap
            (query? target (foundReferences cluster target))).map .get ++
          (Cluster.listing "deployment" target.ns target.selector ::
            ((logSources cluster target).map .logs ++
              (summaryKinds.filterMap (query? target (foundReferences cluster target))).map
                fun query => .get (query.formatted .wide)))) := by
  have hobjects : (objectsScript cluster target).filterMap Operation.call? =
      ((objectKinds.drop 1).filterMap
        (query? target (foundReferences cluster target))).map .get := by
    simp only [objectsScript, List.filterMap_append, calls_known]
    show _ = (List.filterMap (query? target (foundReferences cluster target))
      ["catalogsource", "installplan", "clusterserviceversion", "deployment", "pod"]).map Call.get
    have hcatalog : query? target (foundReferences cluster target) "catalogsource" =
        catalogQuery? target (foundReferences cluster target) := rfl
    have hplan : query? target (foundReferences cluster target) "installplan" =
        planQuery? target (foundReferences cluster target) := rfl
    simp only [List.filterMap_cons, hcatalog, hplan]
    cases catalogQuery? target (foundReferences cluster target) <;>
      cases planQuery? target (foundReferences cluster target) <;> rfl
  simp only [script, List.filterMap_append, List.filterMap_cons, calls_referencesNote, hobjects,
    calls_logsScript, calls_summaryScript, List.nil_append]
  rfl

/-- Requests for objects in one form show them in that form and in no other. -/
theorem subjects_gets {queries : List Query} {form : Format}
    (h : ∀ query ∈ queries, query.format = form) (format : Format) :
    (queries.map Call.get).filterMap (Cluster.Call.subject? format) =
      if form = format then queries.map Query.subject else [] := by
  induction queries with
  | nil => simp
  | cons query rest ih =>
      have hquery := h query List.mem_cons_self
      rw [List.map_cons, List.filterMap_cons, ih fun other hother =>
        h other (List.mem_cons_of_mem _ hother), Cluster.Call.subject?, hquery]
      by_cases hform : form = format <;> simp [hform]

theorem subjects_logs (sources : List LogSource) (format : Format) :
    (sources.map Call.logs).filterMap (Cluster.Call.subject? format) = [] := by
  rw [List.filterMap_map]
  exact List.filterMap_eq_nil_iff.2 fun _ _ => rfl

theorem sources_gets (queries : List Query) :
    (queries.map Call.get).filterMap Cluster.Call.source? = [] := by
  rw [List.filterMap_map]
  exact List.filterMap_eq_nil_iff.2 fun _ _ => rfl

theorem sources_logs (sources : List LogSource) :
    (sources.map Call.logs).filterMap Cluster.Call.source? = sources := by
  rw [List.filterMap_map]
  exact List.filterMap_some

/-- Objects are asked for as documents to be kept. -/
theorem query?_format {references : References} {kind : String} {query : Query}
    (h : query? target references kind = some query) : query.format = .yaml := by
  unfold query? at h
  split at h
  · obtain ⟨name, -, rfl⟩ := Option.map_eq_some_iff.1 h
    rfl
  · split at h
    · obtain ⟨name, -, rfl⟩ := Option.map_eq_some_iff.1 h
      rfl
    · cases h
      rfl

theorem format_of_mem {references : References} {kinds : List String} :
    ∀ query ∈ kinds.filterMap (query? target references), query.format = .yaml := by
  intro query hquery
  obtain ⟨kind, -, hquery⟩ := List.mem_filterMap.1 hquery
  exact query?_format hquery

/-- The summary asks about the same objects in another form. -/
theorem subjects_wide (queries : List Query) (format : Format) :
    (queries.map fun query => Call.get (query.formatted .wide)).filterMap
        (Cluster.Call.subject? format) =
      if .wide = format then queries.map Query.subject else [] := by
  have hwide : ∀ query ∈ queries.map (·.formatted .wide), query.format = .wide := by
    intro query hquery
    obtain ⟨query, -, rfl⟩ := List.mem_map.1 hquery
    rfl
  have hsubjects := subjects_gets hwide format
  rwa [List.map_map, List.map_map] at hsubjects

theorem script_subjects_yaml :
    Operation.shown .yaml (script cluster target) = subjects cluster target objectKinds := by
  have hread : Cluster.Call.subject? .yaml (subscriptionCall target) = none := rfl
  have hlisting : Cluster.Call.subject? .yaml
      (Cluster.listing "deployment" target.ns target.selector) = none := rfl
  rw [Operation.shown, script_calls]
  simp only [List.filterMap_cons, List.filterMap_append, subjects_gets format_of_mem,
    subjects_logs, subjects_wide, hread, hlisting]
  rw [if_pos trivial, if_neg (by decide), List.nil_append, List.append_nil]
  rfl

theorem script_subjects_wide :
    Operation.shown .wide (script cluster target) = subjects cluster target summaryKinds := by
  have hfirst : Cluster.Call.subject? .wide (.get (labeled target "subscription")) = none := rfl
  have hread : Cluster.Call.subject? .wide (subscriptionCall target) = none := rfl
  have hlisting : Cluster.Call.subject? .wide
      (Cluster.listing "deployment" target.ns target.selector) = none := rfl
  rw [Operation.shown, script_calls]
  simp only [List.filterMap_cons, List.filterMap_append, subjects_gets format_of_mem,
    subjects_logs, subjects_wide, hfirst, hread, hlisting]
  rfl

theorem script_sources :
    Operation.sources (script cluster target) = logSources cluster target := by
  have hwide : ∀ queries : List Query,
      (queries.map fun query => Call.get (query.formatted .wide)) =
        (queries.map (·.formatted .wide)).map .get := fun queries => (List.map_map).symm
  have hfirst : Cluster.Call.source? (.get (labeled target "subscription")) = none := rfl
  have hread : Cluster.Call.source? (subscriptionCall target) = none := rfl
  have hlisting : Cluster.Call.source?
      (Cluster.listing "deployment" target.ns target.selector) = none := rfl
  rw [Operation.sources, script_calls, hwide]
  simp only [List.filterMap_cons, List.filterMap_append, sources_gets, sources_logs, hfirst,
    hread, hlisting, List.nil_append, List.append_nil]

/-! ### How it asks -/

/-- The use of a query of the second stage. -/
def IsUsed (target : Target) (use : Query × Option (Collect.Mode × String)) : Prop :=
  use.1.format = .yaml ∧ (∃ name, name ≠ "summary.txt" ∧
      use.2 = some (.replace, file target name)) ∨
    use.1.format = .wide ∧ use.2 = some (.append, file target "summary.txt") ∨
    use.1.format = .json ∧ use.2 = none

theorem known_used {kind name : String} (hname : name ≠ "summary.txt") :
    Only Operation.query? (IsUsed target)
      (known (query? target (foundReferences cluster target) kind) (file target name)) := by
  cases hquery : query? target (foundReferences cluster target) kind with
  | none => exact .nil
  | some query =>
      exact .having _ rfl (.inl ⟨query?_format hquery, name, hname, rfl⟩) .nil

theorem script_used : Only Operation.query? (IsUsed target) (script cluster target) := by
  have hobject : ∀ {kind name}, name ≠ "summary.txt" →
      IsUsed target (labeled target kind, some (.replace, file target name)) :=
    fun hname => .inl ⟨rfl, _, hname, rfl⟩
  refine .having _ rfl (hobject (by decide)) (.having _ rfl (.inr (.inr ⟨rfl, rfl⟩)) ?_)
  refine .append ?_ (.append ?_ (.having _ rfl (.inr (.inr ⟨rfl, rfl⟩)) (.append ?_ ?_)))
  · exact only_referencesNote (fun _ => .without rfl .nil) fun _ => .without rfl .nil
  · refine .append (@known_used _ _ "catalogsource" _ (by decide)) ?_
    refine .append (@known_used _ _ "installplan" _ (by decide)) ?_
    refine .having _ rfl (hobject (by decide)) (.having _ rfl (hobject (by decide)) ?_)
    exact .having _ rfl (hobject (by decide)) .nil
  · unfold logsScript
    split
    · exact .without rfl .nil
    · split
      · exact .without rfl .nil
      · exact .flatMap fun _ _ => .without rfl .nil
  · refine .without rfl (.flatMap fun query hquery => .having _ rfl (.inr (.inl ⟨rfl, rfl⟩)) .nil)

/-! ### The logs -/

/-- Whether a record would say that the logs as a whole are missing. -/
def isLogNote (step : Step) (output : Option String) : Bool :=
  step.kind = "deployment" ∧ output = none

/-- What comes of the names of the deployments: the logs that are read and, where there are none,
the one record that says why. -/
inductive Logged (target : Target) :
    Except Failure (List String) → List LogSource → List StepRecord → Prop where
  | unlisted (failure : Failure) :
      Logged target (.error failure) []
        [{ step := step target "list" "deployment", outcome := .failed, reason := failure.message }]
  | noDeployment :
      Logged target (.ok []) []
        [{ step := step target "logs" "deployment", outcome := .skipped,
           reason := "no operator deployment found" }]
  | read (name : String) (names : List String) :
      Logged target (.ok (name :: names))
        ((name :: names).map fun name => .workload target.ns s!"deployment/{name}") []

variable {site : Site} {p : Progress}

theorem isLogNote_some (step : Step) (output : String) : isLogNote step (some output) = false := by
  simp [isLogNote]

/-- What the second stage does before it reads logs. -/
def upToLogs (cluster : Cluster) (target : Target) : List Operation :=
  .get (labeled target "subscription") (file target "subscription.yaml") ::
    .ask (subscriptionCall target) ::
      (referencesNote cluster target ++
        (objectsScript cluster target ++
          [.ask (Cluster.listing "deployment" target.ns target.selector)]))

theorem script_eq_upToLogs :
    script cluster target =
      upToLogs cluster target ++ (logsScript cluster target ++ summaryScript cluster target) := by
  simp [script, upToLogs]

theorem upToLogs_notes :
    Only Operation.noted? (fun noted => isLogNote noted.1 noted.2 = false)
      (upToLogs cluster target) := by
  have hknown : ∀ (query : Option Query) (output : String),
      Only Operation.noted? (fun noted => isLogNote noted.1 noted.2 = false)
        (known query output) := by
    intro query output
    cases query with
    | none => exact .nil
    | some query => exact .having _ rfl (isLogNote_some _ _) .nil
  refine .having _ rfl (isLogNote_some _ _) (.without rfl (.append ?_ (.append ?_ ?_)))
  · exact only_referencesNote (fun _ => .having _ rfl rfl .nil) fun _ => .having _ rfl rfl .nil
  · refine .append (hknown _ _) (.append (hknown _ _) ?_)
    refine .having _ rfl (isLogNote_some _ _) (.having _ rfl (isLogNote_some _ _) ?_)
    exact .having _ rfl (isLogNote_some _ _) .nil
  · exact .without rfl .nil

/-- The only records about the logs as a whole come from where the logs are read. -/
theorem script_logged (site : Site) (p : Progress) (target : Target) :
    ∃ notes, Logged target (site.cluster.deploymentNames target.ns target.selector)
        (logSources site.cluster target) notes ∧
      (performAll site p (script site.cluster target)).tally.records.filter
          (fun r => isLogNote r.step r.output) =
        p.tally.records.filter (fun r => isLogNote r.step r.output) ++ notes := by
  have hsummary : Only Operation.noted? (fun noted => isLogNote noted.1 noted.2 = false)
      (summaryScript site.cluster target) :=
    .without rfl (.flatMap fun _ _ => .having _ rfl (isLogNote_some _ _) .nil)
  rw [script_eq_upToLogs, Operation.performAll_append, Operation.performAll_append,
    Operation.filter_records_performAll isLogNote hsummary,
    ← @Operation.filter_records_performAll site p _ isLogNote upToLogs_notes]
  generalize performAll site p (upToLogs site.cluster target) = q
  unfold logsScript logSources listed
  cases site.cluster.deploymentNames target.ns target.selector with
  | error failure => exact ⟨_, .unlisted failure, List.filter_append q.tally.records [_]⟩
  | ok deployments =>
  cases deployments with
  | nil => exact ⟨_, .noDeployment, List.filter_append q.tally.records [_]⟩
  | cons name names =>
      refine ⟨[], .read name names, (?_ : _ = _).trans (List.append_nil _).symm⟩
      exact Operation.filter_records_performAll isLogNote
        (.flatMap fun _ _ => .having _ rfl (isLogNote_some _ _) .nil)

/-! ### The stage -/

/-- What the second stage asks about, and what it says where there is no log. -/
structure Inventory (site : Site) (p : Progress) (target : Target) (q : Progress)
    (ops : List Operation) : Prop where
  /-- What follows about the operations is about what the stage does. -/
  performs : Performs site p (Collect.install target) () ops
  calls : q.calls = p.calls ++ ops.filterMap Operation.call?
  /-- Documents are collected in files of their own and tables at the end of the summary. -/
  used : Only Operation.query? (IsUsed target) ops
  documents_nodup : (Operation.shown .yaml ops).Nodup
  sections_nodup : (Operation.shown .wide ops).Nodup
  mem_documents_iff : ∀ subject,
    subject ∈ Operation.shown .yaml ops ↔ Sought site.cluster target subject
  mem_sections_iff : ∀ subject,
    subject ∈ Operation.shown .wide ops ↔ Sought site.cluster target subject
  /-- No log is left out without a record, and none is read twice. -/
  logs : ∃ names notes,
    NamesRead "deployment" Cluster.Objects.deployment target.selector
        (site.cluster.answer (Cluster.listing "deployment" target.ns target.selector)) names ∧
      Logged target names (Operation.sources ops) notes ∧
      q.tally.records.filter (fun r => isLogNote r.step r.output) =
        p.tally.records.filter (fun r => isLogNote r.step r.output) ++ notes

/-- Whatever a cluster answers and whatever the bundle looks like, the documents and the sections of
the summary are about the same objects, and every deployment that is listed has its log read. -/
theorem install_inventory (site : Site) (p : Progress) (target : Target) :
    Inventory site p target ((Collect.install target).on site p).2
      (script site.cluster target) := by
  have hperforms := @Performs.install site p target
  obtain ⟨-, htally, hcalls⟩ := Progress.silent_eq_iff.1 hperforms.2
  obtain ⟨notes, hlogged, hnotes⟩ := script_logged site p target
  exact
    { performs := hperforms
      calls := hcalls.trans (Operation.performAll_calls _)
      used := script_used
      documents_nodup := script_subjects_yaml ▸ nodup_subjects (by decide)
      sections_nodup := script_subjects_wide ▸ nodup_subjects (by decide)
      mem_documents_iff := fun subject =>
        script_subjects_yaml ▸ mem_subjects_iff (by decide)
      mem_sections_iff := fun subject =>
        script_subjects_wide ▸ mem_subjects_iff (.refl _)
      logs := ⟨_, notes, Cluster.read_names site.cluster _ _ _ _, script_sources ▸ hlogged,
        htally ▸ hnotes⟩ }

end Install

end ClusterBundle
