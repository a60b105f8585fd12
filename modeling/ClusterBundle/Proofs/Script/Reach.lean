import ClusterBundle.Proofs.Script.Run

/-!
What the requests of a run reach.

A request reads objects of a kind, a log or a token, or it looks into a container or at an address.
Each script has the list of what its requests reach. The lists are short and hold no names that a
cluster gave, so whether two scripts can make the same request is decided by comparing them.
-/

namespace ClusterBundle

namespace Cluster

/-- What a request reaches. -/
inductive Reach where
  | objects (kind : String)
  | log
  | token
  /-- The inside of a container with a name. -/
  | container (name : String)
  /-- What is behind an address. -/
  | address
  deriving Repr, DecidableEq

def Call.reach : Call → Reach
  | .get query => .objects query.kind
  | .exec container _ => .container container.name
  | .logs _ => .log
  | .token .. => .token
  | .fetch .. => .address

end Cluster

open Cluster (Reach)

namespace Operation

/-- An operation makes a request that reaches something. -/
def Reaches (op : Operation) (reach : Reach) : Prop := op.call?.map (·.reach) = some reach

/-- No request of some operations reaches anything else than what is listed. -/
abbrev Within (reaches : List Reach) (ops : List Operation) : Prop :=
  Only (fun op => op.call?.map (·.reach)) (· ∈ reaches) ops

theorem not_reaches {op : Operation} (h : op.call? = none) (reach : Reach) :
    ¬ op.Reaches reach := by
  simp [Reaches, h]

/-- What is not listed is not reached. -/
theorem Within.not_reaches {reaches : List Reach} {ops : List Operation} {op : Operation}
    (h : Within reaches ops) {reach : Reach} (hreach : reach ∉ reaches) (hop : op ∈ ops) :
    ¬ op.Reaches reach :=
  fun hreached => hreach (h op hop reach hreached)

end Operation

open Operation (Within)

/-! ### The scripts -/

def Lifecycle.reaches : List Reach := [.objects "packagemanifest", .objects "pod", .log]

theorem Lifecycle.script_within (target : Target) : Within reaches (script target) := by
  refine .having (.objects "packagemanifest") rfl (by decide) ?_
  refine .having (.objects "pod") rfl (by decide) ?_
  exact .flatMap fun _ _ => .having .log rfl (by decide) .nil

namespace Install

def reaches : List Reach :=
  [.objects "subscription", .objects "catalogsource", .objects "installplan",
    .objects "clusterserviceversion", .objects "deployment", .objects "pod", .log]

variable (cluster : Cluster) (target : Target)

theorem catalogQuery?_reach (references : References) :
    ∀ q ∈ catalogQuery? target references, Reach.objects q.kind ∈ reaches := by
  intro q hq
  obtain ⟨name, -, rfl⟩ := Option.map_eq_some_iff.1 hq
  simp [reaches, Cluster.Query.named, Cluster.Query.inNamespace]

theorem planQuery?_reach (references : References) :
    ∀ q ∈ planQuery? target references, Reach.objects q.kind ∈ reaches := by
  intro q hq
  obtain ⟨name, -, rfl⟩ := Option.map_eq_some_iff.1 hq
  simp [reaches, Cluster.Query.named, Cluster.Query.inNamespace]

theorem summaryQueries_reach (references : References) :
    ∀ q ∈ summaryQueries target references, Reach.objects q.kind ∈ reaches := by
  intro q hq
  have hlabeled : ∀ kind, Reach.objects kind ∈ reaches →
      Reach.objects (labeled target kind).kind ∈ reaches := fun _ h => h
  simp only [summaryQueries, List.map_cons, List.map_nil, List.cons_append, List.nil_append,
    List.mem_filterMap, List.mem_cons, List.not_mem_nil, or_false, id] at hq
  obtain ⟨found, hfound, rfl⟩ := hq
  rcases hfound with h | h | h | h | h | h
  · exact catalogQuery?_reach target references q h.symm
  · exact Option.some.inj h ▸ hlabeled "subscription" (by decide)
  · exact planQuery?_reach target references q h.symm
  · exact Option.some.inj h ▸ hlabeled "clusterserviceversion" (by decide)
  · exact Option.some.inj h ▸ hlabeled "deployment" (by decide)
  · exact Option.some.inj h ▸ hlabeled "pod" (by decide)

theorem known_within {query : Option Cluster.Query}
    (h : ∀ q ∈ query, Reach.objects q.kind ∈ reaches) (output : String) :
    Within reaches (known query output) := by
  cases query with
  | none => exact .nil
  | some query => exact .having (.objects query.kind) rfl (h query rfl) .nil

theorem referencesNote_within : Within reaches (referencesNote cluster target) :=
  only_referencesNote (fun _ => .without rfl .nil) fun _ => .without rfl .nil

theorem objectsScript_within : Within reaches (objectsScript cluster target) := by
  refine .append (known_within (catalogQuery?_reach target _) _) ?_
  refine .append (known_within (planQuery?_reach target _) _) ?_
  refine .having (.objects "clusterserviceversion") rfl (by decide) ?_
  refine .having (.objects "deployment") rfl (by decide) ?_
  exact .having (.objects "pod") rfl (by decide) .nil

theorem logsScript_within : Within reaches (logsScript cluster target) := by
  unfold logsScript
  split
  · exact .without rfl .nil
  · split
    · exact .without rfl .nil
    · exact .flatMap fun _ _ => .having .log rfl (by decide) .nil

theorem summaryScript_within : Within reaches (summaryScript cluster target) := by
  refine .without rfl (.flatMap fun query hquery => ?_)
  exact .having (.objects query.kind) rfl (summaryQueries_reach target _ query hquery) .nil

theorem script_within : Within reaches (script cluster target) := by
  refine .having (.objects "subscription") rfl (by decide) ?_
  refine .having (.objects "subscription") rfl (by decide) ?_
  refine .append (referencesNote_within cluster target) ?_
  refine .append (objectsScript_within cluster target) ?_
  refine .having (.objects "deployment") rfl (by decide) ?_
  exact .append (logsScript_within cluster target) (summaryScript_within cluster target)

end Install

namespace Instances

/-- What is reached besides the user-facing resources. -/
def reaches : List Reach := [.objects internalKind]

variable (cluster : Cluster) (settings : Settings)

theorem internals_within : Within reaches [internals] :=
  .having (.objects internalKind) rfl (by decide) .nil

theorem namespaceReads_within : Within reaches (namespaceReads cluster) := by
  refine .having (.objects internalKind) rfl (by decide) ?_
  split
  · exact .having (.objects internalKind) rfl (by decide) .nil
  · exact .nil

theorem namespaceNote_within : Within reaches (namespaceNote cluster settings) := by
  unfold namespaceNote
  split
  · exact .nil
  · exact .without rfl .nil

theorem script_within (collected : Bool) :
    Within (.objects kind :: reaches) (script cluster settings collected) := by
  have hmore : ∀ reach ∈ reaches, reach ∈ .objects kind :: reaches := by decide
  refine .append (internals_within.mono hmore) ?_
  cases collected with
  | false => exact .without rfl .nil
  | true =>
      refine .having (.objects kind) rfl (by decide) ?_
      exact .append ((namespaceReads_within cluster).mono hmore)
        ((namespaceNote_within cluster settings).mono hmore)

end Instances

namespace Exporter

def reaches : List Reach :=
  [.objects "events", .objects "daemonset", .objects "configmap", .objects "serviceaccount",
    .objects "securitycontextconstraints", .objects "pod", .container containerName, .log]

theorem objectsScript_within (ns : String) : Within reaches (objectsScript ns) := by
  have hkinds : ∀ row ∈ objects, Reach.objects row.1 ∈ reaches := by decide
  refine .having (.objects "events") rfl (by decide) (.append ?_ ?_)
  · exact .flatMap fun row hrow => .having (.objects row.1) rfl (hkinds row hrow) .nil
  · exact .having (.objects "securitycontextconstraints") rfl (by decide) .nil

theorem podScript_within (ns pod : String) : Within reaches (podScript ns (diagnostics pod)) := by
  refine .without rfl (.having (.objects "pod") rfl (by decide) (.append ?_ ?_))
  · exact .map fun _ _ => ⟨.container containerName, rfl, by decide⟩
  · exact .having .log rfl (by decide) .nil

theorem script_within (cluster : Cluster) (ns : Option String) :
    Within reaches (script cluster ns) := by
  cases ns with
  | none => exact .nil
  | some ns =>
      refine .append (objectsScript_within ns) ?_
      refine .having (.objects "pod") rfl (by decide) ?_
      unfold podsScript
      split
      · exact .without rfl .nil
      · exact .flatMap fun pod _ => podScript_within ns pod

end Exporter

namespace Monitoring

/-- What is reached to find out how monitoring can be reached. -/
def accessReaches : List Reach := [.objects "route", .token, .objects "pod", .objects "configmap"]

/-- What is reached once that is known. -/
def reaches : List Reach := [.address, .container containerName]

theorem upTo_within {limits : List Reach} {reads : List (Cluster.Call × Bool)}
    (h : ∀ read ∈ reads, read.1.reach ∈ limits) : Within limits (upTo reads) := by
  induction reads with
  | nil => exact .nil
  | cons read rest ih =>
      obtain ⟨call, found⟩ := read
      obtain ⟨hcall, hrest⟩ := List.forall_mem_cons.1 h
      refine .having call.reach rfl hcall ?_
      cases found with
      | true => exact ih hrest
      | false => exact .nil

theorem accessScript_within (cluster : Cluster) (settings : Settings) :
    Within accessReaches (accessScript cluster settings) := by
  refine .append (upTo_within fun read hread => ?_) ?_
  · have hreaches : accessReaches = List.map (fun read => read.1.reach)
        [(routeCall settings, (foundHost cluster settings).toBool),
          (tokenCall settings, (foundToken cluster settings).toBool),
          (podsCall settings, (foundPods cluster settings).toBool),
          (certificatesCall settings, (foundCertificates cluster settings).toBool)] := rfl
    rw [hreaches]
    exact List.mem_map_of_mem hread
  · split
    · exact .nil
    · exact .without rfl .nil

theorem rulesScript_within (bundle : Bundle) (tree : File.Tree) (access : Access) :
    Within reaches (rulesScript bundle tree access) := by
  unfold rulesScript
  split
  · exact .without rfl .nil
  · split
    · exact .without rfl .nil
    · refine .without rfl ?_
      split
      · exact .without rfl .nil
      · exact .having .address rfl (by decide) .nil

theorem script_within (bundle : Bundle) (tree : File.Tree) (access : Access)
    (settings : Settings) : Within reaches (script bundle tree access settings) := by
  refine .append (rulesScript_within bundle tree access) ?_
  refine .flatMap fun _ _ => .flatMap fun _ _ => ?_
  exact .having (.container containerName) rfl (by decide) .nil

end Monitoring

end ClusterBundle
