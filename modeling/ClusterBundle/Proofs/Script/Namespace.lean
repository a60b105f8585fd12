import ClusterBundle.Proofs.Script.Discovery

/-!
What comes of the third stage.

The namespace of the workload hangs on four requests in a row. A failure is treated in three ways:
if the internal resources cannot be collected, a step is skipped and nothing more is asked; if there
is no internal resource, the namespace stays unknown without a word in the tally; and if the cluster
does not say whether there is one, or what is in it, that is a failure. `Resolves` has one
constructor for each end of the stage, and each of them says everything that is left behind.
-/

namespace ClusterBundle

open Cluster (Call Failure)
open Operation (performAll)

namespace Instances

/-! ### The reads -/

/-- What an answer to the request for the name of an object says. An answer without a name says the
same as the failure that there is no such object. -/
inductive ExistenceRead : Except Failure Bytes → Except Failure Bool → Prop where
  | missing {failure : Failure} (h : failure.isNotFound = true) :
      ExistenceRead (.error failure) (.ok false)
  | unanswered {failure : Failure} (h : failure.isNotFound = false) :
      ExistenceRead (.error failure) (.error failure)
  | blank {bytes : Bytes} (h : ∀ c ∈ (Utf8.lossy bytes).toList, isBlank c = true) :
      ExistenceRead (.ok bytes) (.ok false)
  | found {bytes : Bytes} (h : ∃ c ∈ (Utf8.lossy bytes).toList, isBlank c = false) :
      ExistenceRead (.ok bytes) (.ok true)

/-- What an answer to the request for the internal resource says of the namespace. -/
inductive NamespaceRead (settings : Settings) : Except Failure Bytes → Except Failure String → Prop
    where
  | unanswered (failure : Failure) : NamespaceRead settings (.error failure) (.error failure)
  | undecodable {bytes : Bytes} {message : String} (h : Json.read .any bytes = .error message) :
      NamespaceRead settings (.ok bytes)
        (.error (.undecodable s!"{internalKind} {internalName}" message))
  | named {bytes : Bytes} {resource : Json.Value} {ns : String}
      (h : Json.read .any bytes = .ok resource)
      (hns : resource.at? ["spec", "exporter", "deployment", "namespace"] = some (.text ns))
      (hsome : ns ≠ "") : NamespaceRead settings (.ok bytes) (.ok ns)
  | unnamed {bytes : Bytes} {resource : Json.Value} (h : Json.read .any bytes = .ok resource)
      (hns : ∀ ns,
        resource.at? ["spec", "exporter", "deployment", "namespace"] = some (.text ns) → ns = "") :
      NamespaceRead settings (.ok bytes) (.ok settings.workloadNamespace)

/-- The namespace that an answer to the request for the internal resource names. -/
def namespaceOf (settings : Settings) (answer : Except Failure Bytes) : Except Failure String :=
  (Cluster.decodeAs .any s!"{internalKind} {internalName}" answer).map fun resource =>
    (resource.textAt? namespaceField).getD settings.workloadNamespace

theorem foundNamespace_eq (cluster : Cluster) (settings : Settings) :
    foundNamespace cluster settings =
      match exists? cluster with
      | .error failure => .error failure
      | .ok false => .ok none
      | .ok true => (namespaceOf settings (cluster.answer documentCall)).map some := by
  unfold foundNamespace
  cases exists? cluster with
  | error failure => rfl
  | ok found =>
      cases found with
      | false => rfl
      | true =>
          show _ = ((cluster.document (Cluster.Query.named internalKind internalName)).map _).map _
          cases cluster.document (Cluster.Query.named internalKind internalName) <;> rfl

/-- An answer to the request for a name is read as it is understood. -/
theorem existenceRead_iff {answer : Except Failure Bytes} {result : Except Failure Bool} :
    ExistenceRead answer result ↔ Cluster.existence answer = result := by
  constructor
  · rintro (⟨h⟩ | ⟨h⟩ | ⟨h⟩ | ⟨h⟩)
    · cases ‹Failure› <;> first | rfl | cases h
    · cases ‹Failure› <;> first | rfl | cases h
    · simpa [Cluster.existence, Text.isAllBlank] using h
    · simpa [Cluster.existence, Text.isAllBlank] using h
  · rintro rfl
    cases answer with
    | error failure =>
        cases failure with
        | notFound => exact .missing rfl
        | _ => exact .unanswered rfl
    | ok bytes =>
        cases hblank : Text.isAllBlank (Utf8.lossy bytes) with
        | true =>
            rw [Cluster.existence, hblank]
            exact .blank (by simpa [Text.isAllBlank] using hblank)
        | false =>
            rw [Cluster.existence, hblank]
            exact .found (by simpa [Text.isAllBlank] using hblank)

theorem read_namespace (settings : Settings) (answer : Except Failure Bytes) :
    NamespaceRead settings answer (namespaceOf settings answer) := by
  unfold namespaceOf
  cases answer with
  | error failure => exact .unanswered failure
  | ok bytes =>
  cases hread : Json.read .any bytes with
  | error message =>
      rw [Cluster.decodeAs_of_error _ hread]
      exact .undecodable hread
  | ok resource =>
      rw [Cluster.decodeAs_of_ok _ hread]
      show NamespaceRead settings _ (.ok ((resource.textAt? namespaceField).getD _))
      cases hns : resource.textAt? namespaceField with
      | none =>
          refine .unnamed hread fun ns hfound => ?_
          by_cases hsome : ns = ""
          · exact hsome
          · cases hns.symm.trans (Json.Value.textAt?_eq_some_iff.2 ⟨hfound, hsome⟩)
      | some ns =>
          obtain ⟨hfound, hsome⟩ := Json.Value.textAt?_eq_some_iff.1 hns
          exact .named hread hfound hsome

/-- There is but one way to read an answer. -/
theorem NamespaceRead.eq {settings : Settings} {answer : Except Failure Bytes}
    {result : Except Failure String} (h : NamespaceRead settings answer result) :
    namespaceOf settings answer = result := by
  unfold namespaceOf
  cases h with
  | unanswered failure => rfl
  | undecodable h =>
      rw [Cluster.decodeAs_of_error _ h]
      rfl
  | named h hns hsome =>
      rw [Cluster.decodeAs_of_ok _ h]
      have hfound := Json.Value.textAt?_eq_some_iff.2 ⟨hns, hsome⟩
      exact congrArg (fun found : Option String => Except.ok (found.getD _)) hfound
  | @unnamed bytes resource h hns =>
      rw [Cluster.decodeAs_of_ok _ h]
      have hnone : resource.textAt? namespaceField = none := by
        refine Option.eq_none_iff_forall_not_mem.2 fun ns hfound => ?_
        obtain ⟨hfound, hsome⟩ := Json.Value.textAt?_eq_some_iff.1 hfound
        exact hsome (hns ns hfound)
      exact congrArg (fun found : Option String => Except.ok (found.getD _)) hnone

/-! ### The stage -/

section

variable (site : Site) (settings : Settings) (p : Progress)

/-- Collecting the internal resources, and how far the stage has come then. -/
def atInternals : Outcome × Progress :=
  (Collect.get (Cluster.Query.all internalKind) "kepler-internals.yaml").on site p

/-- Collecting the user-facing resources, and how far the stage has come then. -/
def atResources : Outcome × Progress :=
  (Collect.get (Cluster.Query.all kind) "keplers.yaml").on site (atInternals site p).2

/-- What a progress comes to if only requests are made and only the tally changes. -/
structure Notes (p : Progress) (calls : List Call) (tally : Tally) (q : Progress) : Prop where
  calls : q.calls = p.calls ++ calls
  tally : q.tally = tally
  tree : q.tree = p.tree

/-- The step that is tallied if the cluster does not say what the namespace is. -/
def namespaceStep : Step := { action := "discover", kind := internalKind, name := internalName }

/-- The step that is tallied if there are no internal resources. -/
def resourcesStep : Step := { action := "get", kind := kind, name := "*" }

/-- The ends of the third stage. -/
inductive Resolves : Option String → Progress → Prop where
  /-- The internal resources could not be collected. -/
  | unavailable {q : Progress} (hinternals : (atInternals site p).1 ≠ .written)
      (hnotes : Notes (atInternals site p).2 []
        ((atInternals site p).2.tally.addSkipped resourcesStep "internal resources unavailable"
          none) q) :
      Resolves none q
  /-- There is no internal resource. -/
  | absent {q : Progress} (hinternals : (atInternals site p).1 = .written)
      (hread : ExistenceRead (site.cluster.answer existenceCall) (.ok false))
      (hnotes : Notes (atResources site p).2 [existenceCall] (atResources site p).2.tally q) :
      Resolves none q
  /-- The cluster does not say whether there is one. -/
  | unsure {failure : Failure} {q : Progress} (hinternals : (atInternals site p).1 = .written)
      (hread : ExistenceRead (site.cluster.answer existenceCall) (.error failure))
      (hnotes : Notes (atResources site p).2 [existenceCall]
        ((atResources site p).2.tally.addFailed namespaceStep failure.message none) q) :
      Resolves none q
  /-- The cluster does not say what is in it. -/
  | unread {failure : Failure} {q : Progress} (hinternals : (atInternals site p).1 = .written)
      (hread : ExistenceRead (site.cluster.answer existenceCall) (.ok true))
      (hns : NamespaceRead settings (site.cluster.answer documentCall) (.error failure))
      (hnotes : Notes (atResources site p).2 [existenceCall, documentCall]
        ((atResources site p).2.tally.addFailed namespaceStep failure.message none) q) :
      Resolves none q
  | resolved {ns : String} {q : Progress} (hinternals : (atInternals site p).1 = .written)
      (hread : ExistenceRead (site.cluster.answer existenceCall) (.ok true))
      (hns : NamespaceRead settings (site.cluster.answer documentCall) (.ok ns))
      (hnotes : Notes (atResources site p).2 [existenceCall, documentCall]
        (atResources site p).2.tally q) :
      Resolves (some ns) q

end

variable {site : Site} {settings : Settings} {p q r : Progress} {calls : List Call}

/-- What requests leave behind when nothing is tallied behind them. -/
theorem notes_of_asked
    (h : q.silent = (performAll site p (calls.map .ask)).silent) : Notes p calls p.tally q := by
  obtain ⟨hcalls, htally, htree⟩ :=
    (@Monitoring.asked_performAll site p calls).of_silent h
  exact ⟨hcalls, htally, htree⟩

/-- What requests leave behind when a failure is tallied behind them. -/
theorem notes_of_failed {step : Step} {reason : String}
    (h : q.silent = (performAll site p (calls.map .ask ++ [.fail step reason])).silent) :
    Notes p calls (p.tally.addFailed step reason none) q := by
  obtain ⟨hcalls, htally, htree⟩ := @Monitoring.asked_performAll site p calls
  rw [Operation.performAll_append] at h
  obtain ⟨hqtree, hqtally, hqcalls⟩ := Progress.silent_eq_iff.1 h
  refine ⟨hqcalls.trans hcalls, hqtally.trans ?_, hqtree.trans htree⟩
  exact congrArg (Tally.addFailed · step reason none) htally

/-- The end of a stage that could collect the internal resources. -/
theorem resolves_of_written (hinternals : (atInternals site p).1 = .written)
    (h : q.silent = (performAll site (atResources site p).2
      (namespaceReads site.cluster ++ namespaceNote site.cluster settings)).silent) :
    Resolves site settings p (namespace? site.cluster settings true) q := by
  have hread := existenceRead_iff.2 (rfl : exists? site.cluster = _)
  have hns := read_namespace settings (site.cluster.answer documentCall)
  unfold namespaceReads namespaceNote at h
  unfold namespace?
  rw [foundNamespace_eq] at h ⊢
  rw [if_pos rfl]
  cases hexists : exists? site.cluster with
  | error failure =>
      rw [hexists] at h hread
      exact .unsure hinternals hread (@notes_of_failed _ _ _ [existenceCall] _ _ h)
  | ok found =>
  cases found with
  | false =>
      rw [hexists] at h hread
      exact .absent hinternals hread (@notes_of_asked _ _ _ [existenceCall] h)
  | true =>
  rw [hexists] at h hread
  cases hnamespace : namespaceOf settings (site.cluster.answer documentCall) with
  | error failure =>
      rw [hnamespace] at h hns
      exact .unread hinternals hread hns
        (@notes_of_failed _ _ _ [existenceCall, documentCall] _ _ h)
  | ok ns =>
      rw [hnamespace] at h hns
      exact .resolved hinternals hread hns
        (@notes_of_asked _ _ _ [existenceCall, documentCall] h)

/-- The third stage ends in one of five ways. -/
theorem resolves_instances (site : Site) (settings : Settings) (p : Progress) :
    Resolves site settings p ((Collect.instances settings).on site p).1
      ((Collect.instances settings).on site p).2 := by
  obtain ⟨hresult, hsilent⟩ := @Performs.instances site p settings
  rw [hresult]
  generalize ((Collect.instances settings).on site p).2 = q at hsilent ⊢
  have hinternals : internals.outcome? site p = some (atInternals site p).1 := rfl
  unfold script areCollected at hsilent
  unfold areCollected
  rw [hinternals] at hsilent ⊢
  by_cases hwritten : (atInternals site p).1 = .written
  · simp only [hwritten, decide_true, if_true] at hsilent ⊢
    exact resolves_of_written hwritten hsilent
  · simp only [Option.some.injEq, hwritten, decide_false, Bool.false_eq_true, if_false] at hsilent ⊢
    obtain ⟨htree, htally, hcalls⟩ := Progress.silent_eq_iff.1 hsilent
    exact .unavailable hwritten ⟨hcalls.trans (List.append_nil _).symm, htally, htree⟩

/-- What the third stage makes of a cluster. -/
structure ResolvesNamespace (site : Site) (settings : Settings) (p : Progress)
    (result : Option String) (q : Progress) : Prop where
  /-- Whatever the result is, it is known what else the stage leaves behind. -/
  resolves : Resolves site settings p result q
  /-- What it takes to find a namespace. -/
  some_iff : ∀ ns, result = some ns ↔
    (atInternals site p).1 = .written ∧
      ExistenceRead (site.cluster.answer existenceCall) (.ok true) ∧
      NamespaceRead settings (site.cluster.answer documentCall) (.ok ns)

/-- Whatever a cluster answers and whatever the bundle looks like, the third stage finds the
namespace of the workload just if the internal resources were written, there is an internal
resource, and its document can be read; and what it leaves behind says why it does not. -/
theorem instances_resolve_namespace (site : Site) (settings : Settings) (p : Progress) :
    ResolvesNamespace site settings p ((Collect.instances settings).on site p).1
      ((Collect.instances settings).on site p).2 := by
  have hresolves := resolves_instances site settings p
  refine ⟨hresolves, fun ns => ⟨fun hresult => ?_, ?_⟩⟩
  · rw [hresult] at hresolves
    cases hresolves with
    | resolved hinternals hread hns hnotes => exact ⟨hinternals, hread, hns⟩
  · rintro ⟨hinternals, hread, hns⟩
    have hexists := existenceRead_iff.1 hread
    have hnamespace := hns.eq
    generalize ((Collect.instances settings).on site p).1 = result at hresolves ⊢
    -- every other end contradicts one of the three
    cases hresolves with
    | unavailable hnot => exact absurd hinternals hnot
    | absent _ hread' =>
        cases hexists.symm.trans (existenceRead_iff.1 hread')
    | unsure _ hread' =>
        cases hexists.symm.trans (existenceRead_iff.1 hread')
    | unread _ _ hns' => cases hnamespace.symm.trans hns'.eq
    | resolved _ _ hns' =>
        exact congrArg some (Except.ok.inj (hns'.eq.symm.trans hnamespace))

end Instances

end ClusterBundle
