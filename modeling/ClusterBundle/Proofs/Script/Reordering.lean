import ClusterBundle.Proofs.Cluster.Reordering
import ClusterBundle.Proofs.Script.Steps

/-!
Stages and the order in which a cluster lists pods and deployments.

Such lists are asked for only to find out names, and none of them is put into the bundle. So two
clusters that are alike but for the orders of these lists let each stage perform the same
operations, and answer alike all that these collect.
-/

namespace ClusterBundle

open Operation (performAll collected? Only)

variable {cluster other : Cluster} {bundle : Bundle} {p q : Progress}

/-! ### Operations at two clusters -/

/-- How a step comes out is decided by the answer and the bundle. -/
theorem Collect.finish_on_bundle {site other : Site} (h : site.bundle = other.bundle)
    (mode : Collect.Mode) (step : Step) (output : String)
    (answer : Except Cluster.Failure Bytes) :
    (finish mode step output answer).on site p = (finish mode step output answer).on other p := by
  cases answer with
  | error failure =>
      cases habsent : failure.isNotFound with
      | true =>
          rw [on_finish_absent _ _ _ habsent, on_finish_absent _ _ _ habsent]
          rfl
      | false =>
          rw [on_finish_failed _ _ _ habsent, on_finish_failed _ _ _ habsent]
          rfl
  | ok content =>
      rcases hput : mode.put output content site.bundle p.tree with ⟨_ | path, tree⟩
      · rw [on_finish_refused step hput, on_finish_refused step (h ▸ hput)]
        rfl
      · rw [on_finish_written step hput, on_finish_written step (h ▸ hput)]
        rfl

namespace Operation

/-- An operation does the same at two clusters that answer alike what it collects. -/
theorem act_cluster (op : Operation)
    (hop : ∀ collected, collected? op = some collected →
      cluster.answer collected.1 = other.answer collected.1) :
    op.outcome? ⟨cluster, bundle⟩ p = op.outcome? ⟨other, bundle⟩ p ∧
      (op.perform ⟨cluster, bundle⟩ p).silent = (op.perform ⟨other, bundle⟩ p).silent := by
  have hbundle : (Site.mk cluster bundle).bundle = (Site.mk other bundle).bundle := rfl
  cases op with
  | collect mode step output call =>
      have hanswer : cluster.answer call = other.answer call := hop (call, step) rfl
      -- an observer may be told different things of the two requests
      have hasked : ((Collect.ask call).on ⟨cluster, bundle⟩ p).2.silent =
          ((Collect.ask call).on ⟨other, bundle⟩ p).2.silent := rfl
      obtain ⟨hout, hrest⟩ := Collect.finish_silent ⟨other, bundle⟩ hasked mode step output
        (other.answer call)
      rw [← Collect.finish_on_bundle hbundle] at hout hrest
      exact ⟨by simpa [outcome?, act, hanswer] using hout,
        by simpa [perform, act, hanswer] using hrest⟩
  | save step output content =>
      simp only [outcome?, perform, act, Collect.write, Collect.on_map,
        Collect.finish_on_bundle hbundle, and_self]
  | skip step reason | fail step reason | ask call | reread path => exact ⟨rfl, rfl⟩
  | makeDirectory pod path =>
      simp only [outcome?, perform, act, Collect.podDirectory, Collect.on_bind, Collect.on_inTree]
      cases (bundle.createDirectory p.tree path).1 <;> exact ⟨rfl, rfl⟩
  | reset path =>
      simp only [outcome?, perform, act, Collect.resetSummary, Collect.on_bind, Collect.on_inTree]
      cases (bundle.write p.tree path []).1 <;> exact ⟨rfl, rfl⟩

theorem performAll_cluster {ops : List Operation} (h : p.silent = q.silent)
    (hops : Only collected? (fun collected =>
      cluster.answer collected.1 = other.answer collected.1) ops) :
    (performAll ⟨cluster, bundle⟩ p ops).silent = (performAll ⟨other, bundle⟩ q ops).silent := by
  induction ops generalizing p q with
  | nil => exact h
  | cons op ops ih =>
      obtain ⟨hop, hrest⟩ := List.forall_mem_cons.1 hops
      exact ih ((act_cluster op hop).2.trans (perform_silent h op)) hrest

end Operation

/-- A computation does the same at two sites: it has the same result, makes the same requests in
the same order, and leaves the same bundle and the same tally. -/
structure Collect.SameAt {α : Type} (site other : Site) (p : Progress) (act : Collect α) :
    Prop where
  result : (act.on site p).1 = (act.on other p).1
  calls : (act.on site p).2.calls = (act.on other p).2.calls
  tree : (act.on site p).2.tree = (act.on other p).2.tree
  tally : (act.on site p).2.tally = (act.on other p).2.tally

/-- It does the same if it performs the same operations and what they collect is answered alike. -/
theorem Performs.sameAt {α : Type} {act : Collect α} {a : α} {ops : List Operation}
    (h : Performs ⟨cluster, bundle⟩ p act a ops) (hother : Performs ⟨other, bundle⟩ p act a ops)
    (hops : Only collected? (fun collected =>
      cluster.answer collected.1 = other.answer collected.1) ops) :
    Collect.SameAt ⟨cluster, bundle⟩ ⟨other, bundle⟩ p act := by
  obtain ⟨htree, htally, hcalls⟩ := Progress.silent_eq_iff.1
    ((h.2.trans (Operation.performAll_cluster rfl hops)).trans hother.2.symm)
  exact ⟨h.1.trans hother.1.symm, hcalls, htree, htally⟩

/-! ### Lists of pods and deployments are not collected -/

/-- No list of pods or deployments as documents is put into the bundle. -/
abbrev CollectsNoList (ops : List Operation) : Prop :=
  Only collected? (fun collected => collected.1.listed? = none) ops

theorem CollectsNoList.answered (h : cluster.AlikeButOrder other) {ops : List Operation}
    (hops : CollectsNoList ops) :
    Only collected? (fun collected =>
      cluster.answer collected.1 = other.answer collected.1) ops :=
  hops.mono fun collected hcollected => h.others collected.1 hcollected

variable {target : Target} {settings : Settings}

namespace Install

theorem known_collectsNoList (query : Option Cluster.Query) (output : String)
    (hquery : ∀ q, query = some q → q.format = .yaml) : CollectsNoList (known query output) := by
  cases query with
  | none => exact .nil
  | some query =>
      refine .having _ rfl ?_ .nil
      simp [Cluster.Call.listed?, hquery query rfl]

theorem objectsScript_collectsNoList : CollectsNoList (objectsScript cluster target) := by
  refine .append (known_collectsNoList _ _ ?_) (.append (known_collectsNoList _ _ ?_) ?_)
  · intro q hq
    obtain ⟨name, -, rfl⟩ := Option.map_eq_some_iff.1 hq
    rfl
  · intro q hq
    obtain ⟨name, -, rfl⟩ := Option.map_eq_some_iff.1 hq
    rfl
  · exact .having _ rfl rfl (.having _ rfl rfl (.having _ rfl rfl .nil))

theorem logsScript_collectsNoList : CollectsNoList (logsScript cluster target) := by
  unfold logsScript
  split
  · exact .without rfl .nil
  · split
    · exact .without rfl .nil
    · exact .flatMap fun _ _ => .having _ rfl rfl .nil

theorem script_collectsNoList : CollectsNoList (script cluster target) := by
  refine .having _ rfl rfl (.without rfl ?_)
  refine .append (only_referencesNote (fun _ => .without rfl .nil) fun _ => .without rfl .nil) ?_
  refine .append objectsScript_collectsNoList (.without rfl ?_)
  refine .append logsScript_collectsNoList (.without rfl ?_)
  exact .flatMap fun _ _ => .having _ rfl rfl .nil

end Install

namespace Exporter

theorem podScript_collectsNoList (ns : String) (set : PodDiagnostics) :
    CollectsNoList (podScript ns set) := by
  refine .without rfl (.having _ rfl rfl (.append ?_ (.having _ rfl rfl .nil)))
  exact .map fun _ _ => ⟨_, rfl, rfl⟩

theorem script_collectsNoList (ns : Option String) : CollectsNoList (script cluster ns) := by
  cases ns with
  | none => exact .nil
  | some ns =>
      refine .append (.having _ rfl rfl (.append ?_ (.having _ rfl rfl .nil))) (.without rfl ?_)
      · exact .flatMap fun _ _ => .having _ rfl rfl .nil
      · unfold podsScript
        split
        · exact .without rfl .nil
        · exact .flatMap fun _ _ => podScript_collectsNoList _ _

end Exporter

namespace Monitoring

theorem upTo_collectsNoList (reads : List (Cluster.Call × Bool)) :
    CollectsNoList (upTo reads) := by
  induction reads with
  | nil => exact .nil
  | cons read rest ih =>
      refine .without rfl ?_
      split
      · exact ih
      · exact .nil

theorem accessScript_collectsNoList : CollectsNoList (accessScript cluster settings) := by
  refine .append (upTo_collectsNoList _) ?_
  split
  · exact .nil
  · exact .without rfl .nil

theorem script_collectsNoList (tree : File.Tree) (access : Access) :
    CollectsNoList (script bundle tree access settings) := by
  refine .append ?_ (.flatMap fun _ _ => .flatMap fun _ _ => .having _ rfl rfl .nil)
  unfold rulesScript
  split
  · exact .without rfl .nil
  · split
    · exact .without rfl .nil
    · refine .without rfl ?_
      split
      · exact .without rfl .nil
      · exact .having _ rfl rfl .nil

end Monitoring

/-! ### The stages -/

namespace Cluster.AlikeButOrder

variable (h : cluster.AlikeButOrder other)

include h

theorem installScript_eq (target : Target) :
    Install.script cluster target = Install.script other target := by
  have hsubscription : cluster.document (Install.labeled target "subscription") =
      other.document (Install.labeled target "subscription") := h.document_eq rfl
  have hreferences : Install.foundReferences cluster target =
      Install.foundReferences other target := by
    unfold Install.foundReferences
    rw [hsubscription]
  unfold Install.script Install.referencesNote Install.objectsScript Install.logsScript
    Install.summaryScript
  rw [hsubscription, hreferences, h.deploymentNames_eq]

theorem exporterScript_eq (ns : Option String) :
    Exporter.script cluster ns = Exporter.script other ns := by
  cases ns with
  | none => rfl
  | some ns =>
      unfold Exporter.script Exporter.podsScript
      dsimp only
      rw [h.podNames_eq]

theorem found_eq (settings : Settings) :
    Monitoring.found cluster settings = Monitoring.found other settings ∧
      Monitoring.reads cluster settings = Monitoring.reads other settings := by
  have hhost : Monitoring.foundHost cluster settings = Monitoring.foundHost other settings := by
    unfold Monitoring.foundHost
    rw [h.document_eq rfl]
  have htoken : Monitoring.foundToken cluster settings = Monitoring.foundToken other settings := by
    unfold Monitoring.foundToken
    rw [h.others (Monitoring.tokenCall settings) rfl]
  have hpods : Monitoring.foundPods cluster settings = Monitoring.foundPods other settings :=
    h.podNames_eq _ _
  have hcertificates : Monitoring.foundCertificates cluster settings =
      Monitoring.foundCertificates other settings := by
    unfold Monitoring.foundCertificates
    rw [h.document_eq rfl]
  unfold Monitoring.found Monitoring.reads
  rw [hhost, htoken, hpods, hcertificates]
  exact ⟨rfl, rfl⟩

theorem accessScript_eq (settings : Settings) :
    Monitoring.accessScript cluster settings = Monitoring.accessScript other settings := by
  unfold Monitoring.accessScript
  rw [(h.found_eq settings).1, (h.found_eq settings).2]

theorem sameAt_install (bundle : Bundle) (p : Progress) (target : Target) :
    Collect.SameAt ⟨cluster, bundle⟩ ⟨other, bundle⟩ p (Collect.install target) := by
  have hother : Performs ⟨other, bundle⟩ p (Collect.install target) ()
      (Install.script other target) := .install target
  rw [← h.installScript_eq] at hother
  exact (Performs.install target).sameAt hother (Install.script_collectsNoList.answered h)

theorem sameAt_exporter (bundle : Bundle) (p : Progress) (ns : Option String) :
    Collect.SameAt ⟨cluster, bundle⟩ ⟨other, bundle⟩ p (Collect.exporter ns) := by
  have hother : Performs ⟨other, bundle⟩ p (Collect.exporter ns) () (Exporter.script other ns) :=
    .exporter ns
  rw [← h.exporterScript_eq] at hother
  exact (Performs.exporter ns).sameAt hother ((Exporter.script_collectsNoList ns).answered h)

theorem sameAt_monitoringAccess (bundle : Bundle) (p : Progress) (settings : Settings) :
    Collect.SameAt ⟨cluster, bundle⟩ ⟨other, bundle⟩ p (Collect.monitoringAccess settings).run := by
  have hother := @Performs.monitoringAccess ⟨other, bundle⟩ p settings
  -- the reads collect nothing, so the certificates are saved under the same conditions
  have hreads : ∀ certificates,
      (Monitoring.saving settings certificates).outcome? ⟨cluster, bundle⟩
          (performAll ⟨cluster, bundle⟩ p (Monitoring.reads cluster settings)) =
        (Monitoring.saving settings certificates).outcome? ⟨other, bundle⟩
          (performAll ⟨other, bundle⟩ p (Monitoring.reads cluster settings)) := by
    intro certificates
    have hread : (performAll ⟨cluster, bundle⟩ p (Monitoring.reads cluster settings)).silent =
        (performAll ⟨other, bundle⟩ p (Monitoring.reads cluster settings)).silent :=
      Operation.performAll_cluster rfl ((Monitoring.upTo_collectsNoList _).answered h)
    refine (Operation.act_cluster _ fun collected hnone => ?_).1.trans
      (Operation.outcome?_silent hread _)
    cases hnone
  rw [← h.accessScript_eq, ← (h.found_eq settings).2] at hother
  unfold Monitoring.access at hother
  rw [← (h.found_eq settings).1, ← funext hreads] at hother
  exact (Performs.monitoringAccess settings).sameAt hother
    (Monitoring.accessScript_collectsNoList.answered h)

theorem sameAt_monitoring (bundle : Bundle) (p : Progress) (access : Monitoring.Access)
    (settings : Settings) :
    Collect.SameAt ⟨cluster, bundle⟩ ⟨other, bundle⟩ p (Collect.monitoring access settings) :=
  (Performs.monitoring access settings).sameAt (Performs.monitoring access settings)
    ((Monitoring.script_collectsNoList _ _).answered h)

end Cluster.AlikeButOrder

/-- Listing loses nothing and forgets only the order. The names of pods and of deployments are just
those of the objects that are listed, in the order of their bytes, and an answer that there is none
of or that cannot be read is a failure. So if two clusters are alike but for the order in which
they list pods and deployments, then each of the stages that go by such lists makes the same
requests of both and leaves the same bundle and the same tally. -/
theorem listing_forgets_order (cluster other : Cluster) (bundle : Bundle) (p : Progress) :
    (∀ ns selector,
      Cluster.NamesListed "pod" Cluster.Objects.pod selector
          (cluster.answer (Cluster.listing "pod" ns selector))
          ((Collect.podNames ns selector).on ⟨cluster, bundle⟩ p).1 ∧
        Cluster.NamesListed "deployment" Cluster.Objects.deployment selector
          (cluster.answer (Cluster.listing "deployment" ns selector))
          ((Collect.deploymentNames ns selector).on ⟨cluster, bundle⟩ p).1) ∧
      (cluster.AlikeButOrder other →
        (∀ ns, Collect.SameAt ⟨cluster, bundle⟩ ⟨other, bundle⟩ p (Collect.exporter ns)) ∧
        (∀ target, Collect.SameAt ⟨cluster, bundle⟩ ⟨other, bundle⟩ p (Collect.install target)) ∧
        (∀ settings, Collect.SameAt ⟨cluster, bundle⟩ ⟨other, bundle⟩ p
          (Collect.monitoringAccess settings).run) ∧
        ∀ access settings, Collect.SameAt ⟨cluster, bundle⟩ ⟨other, bundle⟩ p
          (Collect.monitoring access settings)) := by
  refine ⟨fun ns selector => ⟨?_, ?_⟩, fun h => ?_⟩
  · exact (Cluster.read_names cluster "pod" _ ns selector).namesListed
  · exact (Cluster.read_names cluster "deployment" _ ns selector).namesListed
  · exact ⟨h.sameAt_exporter bundle p, h.sameAt_install bundle p,
      h.sameAt_monitoringAccess bundle p, h.sameAt_monitoring bundle p⟩

/-- A cluster that answers every request for pods or deployments as documents with two objects, and
no other request. -/
def clusterListing (name next : String) : Cluster where
  answer call := match call.listed? with
    | some _ =>
        .ok (Utf8.encode ("\x7b\"items\":[\x7b\"metadata\":\x7b\"name\":\"" ++ name ++
          "\"\x7d\x7d,\x7b\"metadata\":\x7b\"name\":\"" ++ next ++ "\"\x7d\x7d]\x7d"))
    | none => .error (.commandFailed "oc" "1" "")

/-- An object of which nothing is known but its name. -/
def objectNamed (name : String) : Json.Value :=
  .object [("metadata", .object [("name", .text name)])]

/-- The theorem at two clusters that list `p` and `q` in different orders. -/
theorem listing_forgets_order_pair :
    (clusterListing "p" "q").AlikeButOrder (clusterListing "q" "p") ∧
      (clusterListing "q" "p").deploymentNames "n" "l" = .ok ["p", "q"] ∧
      Collect.SameAt ⟨clusterListing "p" "q", ⟨"/b"⟩⟩ ⟨clusterListing "q" "p", ⟨"/b"⟩⟩
        { tree := ⟨[(["b"], .directory)]⟩ } (Collect.install ⟨"o", "n", "/b"⟩) := by
  have hsame : (clusterListing "p" "q").AlikeButOrder (clusterListing "q" "p") := by
    refine ⟨fun call shape hcall => .inr ?_, fun call hcall => ?_⟩
    · have hshape : shape = Cluster.Objects.pod ∨ shape = Cluster.Objects.deployment := by
        cases call with
        | get query =>
            simp only [Cluster.Call.listed?, Cluster.listedKinds, List.lookup_cons,
              List.lookup_nil] at hcall
            grind
        | exec | logs | token | fetch => cases hcall
      have hswap : [objectNamed "p", objectNamed "q"].Perm [objectNamed "q", objectNamed "p"] :=
        .swap _ _ _
      simp only [clusterListing, hcall]
      rcases hshape with rfl | rfl <;>
        exact ⟨_, _, .object [("items", .list [objectNamed "p", objectNamed "q"])],
          .object [("items", .list [objectNamed "q", objectNamed "p"])], rfl, rfl,
          by with_unfolding_all rfl, by with_unfolding_all rfl, hswap⟩
    · simp only [clusterListing, hcall]
  have hnames : (clusterListing "p" "q").deploymentNames "n" "l" = .ok ["p", "q"] :=
    Cluster.names_of_sorted (by decide +kernel) (by decide)
  exact ⟨hsame, (hsame.deploymentNames_eq _ _).symm.trans hnames,
    ((listing_forgets_order _ _ _ _).2 hsame).2.1 _⟩

end ClusterBundle
