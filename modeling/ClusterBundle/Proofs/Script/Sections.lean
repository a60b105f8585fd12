import ClusterBundle.Proofs.Bundle.Extension
import ClusterBundle.Proofs.Script.Completeness

/-!
What is in the summary of an installation.

The summary is emptied and then added to, one section for each kind of object that is known. So it
holds what the cluster answered to the requests for the sections, in their order, and nothing else:
a request that fails leaves out its own section and no other, and whatever was in the file before is
gone.
-/

namespace ClusterBundle

open Cluster (Call Failure Query)
open Operation (performAll)

/-- How a step comes out that puts an answer where nothing is in its way. -/
def Cluster.outcomeOf : Except Failure Bytes → Outcome
  | .ok _ => .written
  | .error failure => if failure.isNotFound then .skipped else .failed

namespace Operation

variable {site : Site} {p : Progress} {path full : String} {content : Bytes}

theorem perform_reset_tree :
    ((Operation.reset path).perform site p).tree = (site.bundle.write p.tree path []).2 := by
  simp only [perform, act, Collect.resetSummary, Collect.on_bind, Collect.on_inTree]
  cases (site.bundle.write p.tree path []).1 <;> rfl

/-- What adding an answer to a file does, if the file is there. -/
theorem appendGet_of_holds (query : Query)
    (h : site.bundle.Holds p.tree path full content) :
    (Operation.appendGet query path).outcome? site p =
        some (Cluster.outcomeOf (site.cluster.answer (.get query))) ∧
      site.bundle.Holds ((Operation.appendGet query path).perform site p).tree path full
        (content ++ (site.cluster.answer (.get query)).toOption.getD []) := by
  simp only [appendGet, outcome?, perform, act, Collect.on_bind, Collect.on_ask,
    Collect.on_finish, Collect.on_pure]
  cases site.cluster.answer (.get query) with
  | error failure =>
      cases habsent : failure.isNotFound <;>
        simpa [Ending.settle, habsent, Ending.outcome, Cluster.outcomeOf,
          Except.toOption] using h
  | ok more =>
      obtain ⟨hput, hholds⟩ := h.append more
      have hsettle : Ending.settle .append path site.bundle p.tree (.ok more) =
          (.written full, (site.bundle.append p.tree path more).2) := by
        simp only [Ending.settle, Collect.Mode.put]
        rcases happend : site.bundle.append p.tree path more with ⟨result, after⟩
        rw [happend] at hput
        cases hput
        rfl
      rw [hsettle]
      exact ⟨rfl, hholds⟩

/-- What adding answers to a file does, one after the other. -/
theorem appendGets_of_holds (queries : List Query)
    (h : site.bundle.Holds p.tree path full content) :
    (trace site p (queries.map (appendGet · path))).map Prod.snd =
        queries.map (fun query =>
          some (Cluster.outcomeOf (site.cluster.answer (.get query)))) ∧
      site.bundle.Holds (performAll site p (queries.map (appendGet · path))).tree path full
        (content ++ (queries.filterMap fun query =>
          (site.cluster.answer (.get query)).toOption).flatten) := by
  induction queries generalizing p content with
  | nil => exact ⟨rfl, (List.append_nil content).symm ▸ h⟩
  | cons query rest ih =>
      obtain ⟨houtcome, hholds⟩ := appendGet_of_holds query h
      obtain ⟨houtcomes, hall⟩ := ih hholds
      refine ⟨?_, ?_⟩
      · rw [List.map_cons, trace, List.map_cons, houtcomes, houtcome, List.map_cons]
      · rw [List.map_cons, performAll_cons]
        cases hanswer : site.cluster.answer (.get query) <;>
          simpa [hanswer, Except.toOption] using hall

end Operation

namespace Install

/-- What the second stage does before it turns to the summary. -/
def beforeSummary (target : Target) : Collect References := do
  Collect.emit [.info "Collecting operator info"
    [("stage", "operator"), ("operator", target.operator), ("namespace", target.ns)]]
  discard (Collect.get (labeled target "subscription") (file target "subscription.yaml"))
  let references ← Collect.installReferences target
  Collect.getKnown (catalogQuery? target references) (file target "catalogsource.yaml")
    "Catalog source unknown, skipping"
  Collect.getKnown (planQuery? target references) (file target "installplan.yaml")
    "Install plan unknown, skipping"
  discard (Collect.get (labeled target "clusterserviceversion") (file target "csv.yaml"))
  discard (Collect.get (labeled target "deployment") (file target "deployment.yaml"))
  discard (Collect.get (labeled target "pod") (file target "pod.yaml"))
  Collect.installLogs target
  return references

/-- The summary, made anew. -/
def summarize (target : Target) (references : References) : Collect Unit := do
  Collect.resetSummary (file target "summary.txt")
  (summaryQueries target references).forM fun query =>
    discard (Collect.appendGet (query.formatted .wide) (file target "summary.txt"))

theorem install_eq (target : Target) :
    Collect.install target = beforeSummary target >>= summarize target := by
  simp only [Collect.install, beforeSummary, summarize, bind_assoc, pure_bind]

/-- How far the second stage has come when it turns to the summary. -/
def atSummary (site : Site) (p : Progress) (target : Target) : Progress :=
  ((beforeSummary target).on site p).2

/-- The queries for the sections of the summary, as far as the subscription names the objects. -/
def sectionQueries (cluster : Cluster) (target : Target) : List Query :=
  (summaryKinds.filterMap (query? target (foundReferences cluster target))).map (·.formatted .wide)

/-- The sections of the summary: what the cluster answers, where it does. -/
def answers (cluster : Cluster) (target : Target) : List Bytes :=
  (sectionQueries cluster target).filterMap fun query => (cluster.answer (.get query)).toOption

variable {site : Site} {p : Progress} {target : Target}

theorem performs_beforeSummary :
    Performs site p (beforeSummary target) (foundReferences site.cluster target)
      (collectionScript site.cluster target) := by
  refine .tell_bind fun q _ => ?_
  refine .step rfl ?_
  refine .append (.installReferences target) fun q _ => ?_
  unfold objectsScript
  rw [List.append_assoc, List.append_assoc]
  refine .append (.getKnown _ _ _) fun q _ => ?_
  refine .append (.getKnown _ _ _) fun q _ => ?_
  refine .step rfl (.step rfl (.step rfl ?_))
  exact (Performs.installLogs target).then_quietly fun q => .pure _

/-- The operations of the summary. -/
def summaryOps (cluster : Cluster) (target : Target) : List Operation :=
  .reset (file target "summary.txt") ::
    (sectionQueries cluster target).map (Operation.appendGet · (file target "summary.txt"))

theorem summaryScript_eq (cluster : Cluster) (target : Target) :
    summaryScript cluster target = summaryOps cluster target := by
  rw [summaryScript, summaryOps, summaryQueries_eq, sectionQueries, List.map_map,
    List.map_eq_flatMap]
  rfl

/-- From the summary on, the stage does what the operations of the summary do. -/
theorem install_silent :
    ((Collect.install target).on site p).2.silent =
      (performAll site (atSummary site p target) (summaryOps site.cluster target)).silent := by
  rw [install_eq, Collect.on_bind, performs_beforeSummary.1, ← summaryScript_eq]
  exact (Performs.summary target).2

/-- What has become of the summary at the end of the second stage. -/
structure Summarizes (site : Site) (p : Progress) (target : Target) (full : String)
    (q : Progress) : Prop where
  place : site.bundle.resolve (file target "summary.txt") = .ok full
  /-- The sections and nothing else. -/
  content : File.read q.tree full = .ok (answers site.cluster target).flatten
  /-- From where it is made anew, the summary is all that the stage turns to. -/
  performs : q.silent =
    (performAll site (atSummary site p target) (summaryOps site.cluster target)).silent
  /-- Whether there is a section hangs on nothing but the answer. -/
  outcomes : (Operation.trace site (atSummary site p target)
      (summaryOps site.cluster target)).map Prod.snd =
    none :: (sectionQueries site.cluster target).map fun query =>
      some (Cluster.outcomeOf (site.cluster.answer (.get query)))
  /-- As many steps are written as there are sections. -/
  count : ((Operation.trace site (atSummary site p target)
      (summaryOps site.cluster target)).map Prod.snd).count (some .written) =
    (answers site.cluster target).length
  written : q.tally.written =
    (atSummary site p target).tally.written + (answers site.cluster target).length

/-- Answers are what is written. -/
theorem count_written (cluster : Cluster) (queries : List Query) :
    (queries.map fun query =>
        some (Cluster.outcomeOf (cluster.answer (.get query)))).count (some .written) =
      (queries.filterMap fun query => (cluster.answer (.get query)).toOption).length := by
  induction queries with
  | nil => rfl
  | cons query rest ih =>
      rw [List.map_cons, List.count_cons, ih, List.filterMap_cons]
      cases cluster.answer (.get query) with
      | ok content => rfl
      | error failure =>
          cases habsent : failure.isNotFound <;>
            simp [Cluster.outcomeOf, habsent, Except.toOption]

/-- Whatever a cluster answers and whatever was in the bundle before: if the summary can be made
anew, then in the end it holds what the cluster answered to the requests for its sections, in their
order. -/
theorem install_summarizes (site : Site) (p : Progress) (target : Target) (full : String)
    (h : (site.bundle.write (atSummary site p target).tree (file target "summary.txt") []).1 =
      .ok full) :
    Summarizes site p target full ((Collect.install target).on site p).2 := by
  have hsilent := @install_silent site p target
  obtain ⟨htree, htally, -⟩ := Progress.silent_eq_iff.1 hsilent
  have hempty : site.bundle.Holds
      ((Operation.reset (file target "summary.txt")).perform site (atSummary site p target)).tree
      (file target "summary.txt") full [] := by
    rw [Operation.perform_reset_tree]
    exact Bundle.holds_of_write (Prod.ext h rfl)
  obtain ⟨houtcomes, hholds⟩ :=
    Operation.appendGets_of_holds (sectionQueries site.cluster target) hempty
  have htrace : (Operation.trace site (atSummary site p target)
      (summaryOps site.cluster target)).map Prod.snd =
      none :: (sectionQueries site.cluster target).map fun query =>
        some (Cluster.outcomeOf (site.cluster.answer (.get query))) :=
    congrArg (none :: ·) houtcomes
  have hcount : ((Operation.trace site (atSummary site p target)
      (summaryOps site.cluster target)).map Prod.snd).count (some .written) =
      (answers site.cluster target).length := by
    rw [htrace, List.count_cons_of_ne (by simp), count_written]
    rfl
  exact
    { place := hempty.resolves
      content := htree ▸ hholds.read
      performs := hsilent
      outcomes := htrace
      count := hcount
      written := by rw [htally, Operation.performAll_written, hcount] }

/-- A cluster with a subscription that names a catalog source, and with one kind that it does not
answer about. -/
def clusterTabulating : Cluster where
  answer
    | .get query =>
        if query.format = .json then
          .ok (Utf8.encode "\x7b\"items\":[\x7b\"spec\":\x7b\"source\":\"c\"\x7d\x7d]\x7d")
        else if query.kind = "deployment" then .error (.commandFailed "oc" "1" "")
        else .ok (Utf8.encode query.kind)
    | _ => .ok []

/-- A bundle with an older summary. -/
def bundleSummarized : File.Tree :=
  ⟨[(["b"], .directory), (["b", "o-info"], .directory),
    (["b", "o-info", "summary.txt"], .file [111, 108, 100])]⟩

/-- The theorem at that cluster and that bundle. -/
theorem install_summarizes_tabulating :
    (Bundle.write ⟨"/b"⟩ (atSummary { cluster := clusterTabulating, bundle := ⟨"/b"⟩ }
        { tree := bundleSummarized } ⟨"o", "n", "/b"⟩).tree "o-info/summary.txt" []).1 =
      .ok "/b/o-info/summary.txt" ∧
    File.read ((Collect.install ⟨"o", "n", "/b"⟩).on
        { cluster := clusterTabulating, bundle := ⟨"/b"⟩ } { tree := bundleSummarized }).2.tree
        "/b/o-info/summary.txt" =
      .ok (Utf8.encode "catalogsourcesubscriptionclusterserviceversionpod") := by
  have hreset : (Bundle.write ⟨"/b"⟩ (atSummary { cluster := clusterTabulating, bundle := ⟨"/b"⟩ }
      { tree := bundleSummarized } ⟨"o", "n", "/b"⟩).tree "o-info/summary.txt" []).1 =
      .ok "/b/o-info/summary.txt" := ok_of_toOption (by decide +kernel)
  have hanswers : (answers clusterTabulating ⟨"o", "n", "/b"⟩).flatten =
      Utf8.encode "catalogsourcesubscriptionclusterserviceversionpod" := by decide +kernel
  have hsummary := install_summarizes { cluster := clusterTabulating, bundle := ⟨"/b"⟩ }
    { tree := bundleSummarized } ⟨"o", "n", "/b"⟩ "/b/o-info/summary.txt" hreset
  exact ⟨hreset, hanswers ▸ hsummary.content⟩

end Install

end ClusterBundle
