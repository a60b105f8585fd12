import ClusterBundle.Proofs.Run.Isolation
import ClusterBundle.Proofs.Run.Tidy

/-!
A run on what an earlier run left.

A run is made again on the same cluster, with the same target and settings, in the tree that the
first run and its report have left. It does the same operations, because everything that decides
between operations comes out alike, and each of them comes to the same. What is left in the end is
what one run leaves, at the times of the second.
-/

namespace ClusterBundle

open File (Place Tree walk)
open ClusterBundle.Path (components)
open Operation (performAll Puts Fills)
open ClusterBundle.Bundle (Tidy Stageable)

namespace Run

/-- What a run comes to, with the saving of its report. -/
structure Completed where
  findings : Findings
  tally : Tally
  calls : List Cluster.Call
  saved : Except Bundle.Fault String

/-- A run from making the destination to saving the report. -/
def complete (cluster : Cluster) (target : Target) (settings : Settings)
    (started finished : Calendar.Instant) (tree : Tree) :
    Except Bundle.Fault Completed × Tree :=
  match target.prepare tree with
  | (.error fault, made) => (.error fault, made)
  | (.ok (), made) =>
      let (findings, progress) := run cluster target settings made
      let (saved, left) :=
        (report target findings progress.tally started finished).save progress.tree
      (.ok { findings, tally := progress.tally, calls := progress.calls, saved }, left)

/-- How far a run has come when it is done with its stages. -/
def gathered (cluster : Cluster) (target : Target) (settings : Settings) (made : Tree) :
    Progress :=
  performAll (site cluster target) { tree := made } (script cluster target settings made)

variable {cluster : Cluster} {target : Target} {settings : Settings} {made last : Tree}
  {root : Place} {ns : String}

/-! ### The outputs -/

/-- What the first two stages do before the summary. -/
def collection (cluster : Cluster) (target : Target) : List Operation :=
  Lifecycle.script target ++ Install.collectionScript cluster target

theorem opening_eq_collection :
    opening cluster target = collection cluster target ++ Install.summaryScript cluster target := by
  simp [opening, collection, Install.script_eq]

/-- The pieces of the summary are added to its file. -/
def additions (cluster : Cluster) (target : Target) : List Operation :=
  (Install.summaryQueries target (Install.foundReferences cluster target)).flatMap fun query =>
    [.appendGet (query.formatted .wide) (Install.file target "summary.txt")]

theorem additions_appended : ∀ op ∈ additions cluster target,
    op.appended? = some (Install.file target "summary.txt") := by
  intro op hop
  obtain ⟨query, -, hop⟩ := List.mem_flatMap.1 hop
  obtain rfl := List.mem_singleton.1 hop
  rfl

theorem script_eq_append :
    script cluster target settings made = opening cluster target ++
      (Instances.script cluster settings (internalsCollected cluster target made) ++
        (Exporter.script cluster (workloadNamespace cluster target settings made) ++
          (Monitoring.accessScript cluster settings ++ closing cluster target settings made))) := by
  simp [script, preparation]

section

variable (hnames : HasPlainNames cluster target settings)

include hnames

theorem collection_tidy : Fills Tidy (collection cluster target) :=
  (Lifecycle.script_tidy target).append
    (Install.collectionScript_tidy hnames.operator hnames.listed)

theorem opening_tidy : Puts Tidy (opening cluster target) := by
  rw [opening_eq_collection]
  refine (collection_tidy hnames).puts.append ?_
  refine .having _ rfl (Install.summary_tidy hnames.operator) ?_
  intro op hop path hpath
  rw [Operation.output?_of_appended? (additions_appended op hop)] at hpath
  cases hpath
  exact Install.summary_tidy hnames.operator

variable (hlists :
  Lists (fun names => ∀ name ∈ names, Cluster.IsObjectName name) cluster target settings)

include hlists

theorem exporter_tidy :
    Fills Tidy (Exporter.script cluster (workloadNamespace cluster target settings made)) := by
  cases hworkload : workloadNamespace cluster target settings made with
  | none => exact .nil
  | some ns =>
      obtain ⟨-, hpods, -⟩ := @Lists.listed cluster target settings made _ hlists (by simp)
      unfold exporterPods at hpods
      rw [hworkload] at hpods
      exact Exporter.script_tidy cluster (hnames.workload ns (foundNamespace_of_workload hworkload))
        fun pod hpod => (hpods pod hpod).isFinal

omit hnames in
theorem closing_tidy : Fills Tidy (closing cluster target settings made) := by
  unfold closing
  cases haccess : access cluster target settings made with
  | error fault => exact .without rfl .nil
  | ok reached =>
      obtain ⟨certificates, hfound, -⟩ := Monitoring.access_eq_ok haccess
      obtain ⟨host, token, pods, -, -, hpods, -, rfl⟩ := Monitoring.found_eq_ok hfound
      have hsnapshots := hlists.snapshots pods hpods
      exact Monitoring.script_tidy _ _ _ fun pod hpod => (hsnapshots pod hpod).isFinal

theorem script_tidy : Puts Tidy (script cluster target settings made) := by
  rw [script_eq_append]
  refine (opening_tidy hnames).append ((Instances.script_tidy _ _ _).puts.append ?_)
  refine (exporter_tidy hnames hlists).puts.append ?_
  exact (Monitoring.accessScript_tidy _ _).puts.append (closing_tidy hlists).puts

end

/-! ### The second run -/

section

variable (hnames : HasPlainNames cluster target settings)
  (hlists : Lists (fun names => ∀ name ∈ names, Cluster.IsObjectName name) cluster target settings)
  (hstands : target.bundle.Stands root made)
  (hlast : (gathered cluster target settings made).tree.Grown last)

include hnames hlists hstands hlast

/-- What a run has done at some point is still there in the end. -/
theorem front_stands {front back : List Operation}
    (h : script cluster target settings made = front ++ back) :
    target.bundle.Stands root
        (performAll (site cluster target) { tree := made } front).tree ∧
      (performAll (site cluster target) { tree := made } front).tree.Grown last :=
  @Operation.performAll_front (site cluster target) { tree := made } root last front back hstands
    (h ▸ script_tidy hnames hlists) (h ▸ hlast)

variable (hstageable : Stageable target.bundle made root (Install.file target "summary.txt")
  [target.installDirectory] "summary.txt")

include hstageable

theorem retraced_opening :
    Retraced last (performAll (site cluster target) { tree := made } (opening cluster target))
      (performAll (site cluster target) { tree := last } (opening cluster target)) := by
  have hscript := @script_eq_append cluster target settings made
  have hopening := (front_stands hnames hlists hstands hlast hscript).2
  rw [opening_eq_collection, List.append_assoc] at hscript
  obtain ⟨hbefore, hcollected⟩ := front_stands hnames hlists hstands hlast hscript
  have hstart : Retraced last { tree := made } { tree := last } :=
    ⟨rfl, rfl, .refl last, fun _ => .inl rfl⟩
  have hcollection := Operation.retraced_fills hstart hstands (collection_tidy hnames) hcollected
  have hgrown := (@Operation.performAll_grown (site cluster target) { tree := made } _ _ hstands
    (collection_tidy hnames).puts).2
  rw [opening_eq_collection, Operation.performAll_append] at hopening ⊢
  rw [Operation.performAll_append]
  exact Operation.retraced_remade hcollection hbefore (Install.summary_tidy hnames.operator)
    additions_appended (Install.components_file hnames.operator (by decide))
    (hstageable.stays hgrown) hopening

theorem internalsCollected_again :
    internalsCollected cluster target last = internalsCollected cluster target made := by
  have hscript := @script_eq_append cluster target settings made
  obtain ⟨hbefore, -⟩ := front_stands hnames hlists hstands hlast hscript
  have hfirst : script cluster target settings made =
      (opening cluster target ++ [Instances.internals]) ++
        ((Instances.script cluster settings (internalsCollected cluster target made)).tail ++
          (Exporter.script cluster (workloadNamespace cluster target settings made) ++
            (Monitoring.accessScript cluster settings ++
              closing cluster target settings made))) := by
    rw [hscript, List.append_assoc]
    rfl
  have hcollected := (front_stands hnames hlists hstands hlast hfirst).2
  rw [Operation.performAll_append] at hcollected
  have houtcome := (Operation.retraced_fill
    (retraced_opening hnames hlists hstands hlast hstageable) hbefore
    (Instances.script_tidy cluster settings true _ List.mem_cons_self) hcollected).1
  unfold internalsCollected Instances.areCollected
  rw [houtcome]

theorem workloadNamespace_again :
    workloadNamespace cluster target settings last =
      workloadNamespace cluster target settings made := by
  unfold workloadNamespace
  rw [internalsCollected_again hnames hlists hstands hlast hstageable]

theorem preparation_again :
    preparation cluster target settings last = preparation cluster target settings made := by
  unfold preparation
  rw [internalsCollected_again hnames hlists hstands hlast hstageable,
    workloadNamespace_again hnames hlists hstands hlast hstageable]

theorem retraced_prepared :
    Retraced last (prepared cluster target settings made)
      (prepared cluster target settings last) := by
  have hscript := @script_eq_append cluster target settings made
  obtain ⟨hbefore, -⟩ := front_stands hnames hlists hstands hlast hscript
  have hprepared := (front_stands hnames hlists hstands hlast
    (show _ = preparation cluster target settings made ++ _ from rfl)).2
  unfold prepared
  rw [preparation_again hnames hlists hstands hlast hstageable]
  exact Operation.retraced_fills_behind
    (retraced_opening hnames hlists hstands hlast hstageable) hbefore
    ((Instances.script_tidy _ _ _).append (exporter_tidy hnames hlists)) hprepared

theorem certificatesSaved_again {found : Monitoring.Access} {certificates : String}
    (hfound : Monitoring.found cluster settings = .ok (found, certificates)) :
    certificatesSaved cluster target settings last certificates =
      certificatesSaved cluster target settings made certificates := by
  have haccess : Monitoring.accessScript cluster settings =
      Monitoring.reads cluster settings ++ [Monitoring.saving settings certificates] := by
    rw [Monitoring.accessScript, hfound]
  have hscript : script cluster target settings made =
      preparation cluster target settings made ++ (Monitoring.reads cluster settings ++
        ([Monitoring.saving settings certificates] ++
          closing cluster target settings made)) := by
    rw [script, haccess, List.append_assoc]
  have hfills := Monitoring.accessScript_tidy cluster settings
  rw [haccess] at hfills
  obtain ⟨hreads, hsaving⟩ := List.forall_mem_append.1 hfills
  obtain ⟨hbefore, -⟩ := front_stands hnames hlists hstands hlast hscript
  have hprepared := retraced_prepared hnames hlists hstands hlast hstageable
  unfold prepared at hprepared
  rw [preparation_again hnames hlists hstands hlast hstageable] at hprepared
  rw [← List.append_assoc] at hscript
  obtain ⟨hasked, hgrown⟩ := front_stands hnames hlists hstands hlast hscript
  have hretraced := Operation.retraced_fills_behind hprepared hbefore hreads hgrown
  rw [← List.append_assoc] at hscript
  have hsaved := (front_stands hnames hlists hstands hlast hscript).2
  rw [Operation.performAll_append, Operation.performAll_cons, Operation.performAll_nil] at hsaved
  have houtcome := (Operation.retraced_fill hretraced hasked
    (hsaving (Monitoring.saving settings certificates) (List.mem_singleton_self _)) hsaved).1
  unfold certificatesSaved prepared
  rw [preparation_again hnames hlists hstands hlast hstageable]
  simpa only [Operation.performAll_append] using houtcome

theorem access_again :
    access cluster target settings last = access cluster target settings made := by
  unfold access Monitoring.access
  cases hfound : Monitoring.found cluster settings with
  | error fault => rfl
  | ok found =>
      dsimp only
      rw [certificatesSaved_again hnames hlists hstands hlast hstageable hfound]

theorem closing_again :
    closing cluster target settings last = closing cluster target settings made := by
  have haccess := access_again hnames hlists hstands hlast hstageable
  unfold closing
  rw [haccess]
  cases hreached : access cluster target settings made with
  | error fault => rfl
  | ok reached =>
      -- both times the certificates in the bundle are those that were found
      obtain ⟨certificates, hfound, hread⟩ := read_certificates hreached
      obtain ⟨same, hsame, hagain⟩ := read_certificates (haccess.trans hreached)
      rw [hsame] at hfound
      cases hfound
      exact Monitoring.script_congr (fun path hpath => by rw [hread path hpath, hagain path hpath])
        settings

theorem script_again :
    script cluster target settings last = script cluster target settings made := by
  unfold script
  rw [preparation_again hnames hlists hstands hlast hstageable,
    closing_again hnames hlists hstands hlast hstageable]

theorem findings_again :
    findings cluster target settings last = findings cluster target settings made := by
  unfold findings
  rw [access_again hnames hlists hstands hlast hstageable,
    workloadNamespace_again hnames hlists hstands hlast hstageable]

theorem retraced_gathered :
    Retraced last (gathered cluster target settings made)
      (gathered cluster target settings last) := by
  obtain ⟨hbefore, -⟩ := front_stands hnames hlists hstands hlast
    (show _ = preparation cluster target settings made ++ _ from rfl)
  have hprepared := retraced_prepared hnames hlists hstands hlast hstageable
  unfold prepared at hprepared
  rw [preparation_again hnames hlists hstands hlast hstageable] at hprepared
  unfold gathered
  rw [script_again hnames hlists hstands hlast hstageable]
  exact Operation.retraced_fills_behind hprepared hbefore
    ((Monitoring.accessScript_tidy _ _).append (closing_tidy hlists)) hlast

end

/-! ### From the destination to the report -/

/-- The text of the report of a run. -/
def reportContent (cluster : Cluster) (target : Target) (settings : Settings)
    (started finished : Calendar.Instant) (made : Tree) : Bytes :=
  Utf8.encode (report target (findings cluster target settings made)
    (gathered cluster target settings made).tally started finished).json.pretty

variable {tree : Tree} {started finished : Calendar.Instant}

theorem complete_of_error {fault : IoFault}
    (h : File.createAll tree target.destination = (.error fault, made)) :
    complete cluster target settings started finished tree =
      (.error (.io target.destination fault), made) := by
  rw [complete, Target.prepare, h]

theorem complete_of_ok (h : File.createAll tree target.destination = (.ok (), made)) :
    complete cluster target settings started finished tree =
      (.ok
        { findings := findings cluster target settings made
          tally := (gathered cluster target settings made).tally
          calls := (gathered cluster target settings made).calls
          saved := (target.bundle.write (gathered cluster target settings made).tree
            Report.fileName
            (reportContent cluster target settings started finished made)).1 },
        (target.bundle.write (gathered cluster target settings made).tree Report.fileName
          (reportContent cluster target settings started finished made)).2) := by
  obtain ⟨hfindings, hsilent⟩ := run_eq cluster target settings made
  obtain ⟨htree, htally, hcalls⟩ := Progress.silent_eq_iff.1 hsilent
  rw [complete, Target.prepare, h]
  dsimp only
  rw [hfindings, htree, htally, hcalls]
  rfl

/-- Where the summary of the installation can be opened, its staging file does not stand in the way
of emptying it: the place of the staging file is not taken by a directory, and its path is not too
long if that of the summary is not. -/
def EmptiesSummary (target : Target) (tree : Tree) : Prop :=
  ∀ root, walk tree [] (components target.destination) = .ok root →
    Stageable target.bundle tree root (Install.file target "summary.txt")
      [target.installDirectory] "summary.txt"

theorem report_tidy : Tidy Report.fileName :=
  .of_isFinal (.of_head (by decide) (by decide))

section

variable (h : File.createAll tree target.destination = (.ok (), made))

include h

theorem stands_of_made (hclosed : tree.Closed) : ∃ root, target.bundle.Stands root made := by
  obtain ⟨-, root, hwalk⟩ := File.walk_of_createAll h
  have hmade := File.Access.closed_performAll hclosed
    (File.createAllAccesses tree target.destination)
  rw [File.performAll_createAllAccesses, h] at hmade
  exact ⟨root, hmade, hwalk⟩

theorem made_again (hgrown : made.Grown last) :
    File.createAll last target.destination = (.ok (), last) := by
  obtain ⟨htext, root, hwalk⟩ := File.walk_of_createAll h
  obtain ⟨hsame, hok⟩ := File.createAll_of_walked (hgrown.walk hwalk)
  exact Prod.ext (hok.2 htext) hsame

end

/-- The second run gathers what the first one did, and its report takes the place of the first. -/
theorem gathered_again (hnames : HasPlainNames cluster target settings)
    (hlists : Lists (fun names => ∀ name ∈ names, Cluster.IsObjectName name) cluster target
      settings)
    (hstands : target.bundle.Stands root made)
    (hstageable : Stageable target.bundle made root (Install.file target "summary.txt")
      [target.installDirectory] "summary.txt")
    {content : Bytes} {saved : Except Bundle.Fault String}
    (hsaved : target.bundle.write (gathered cluster target settings made).tree Report.fileName
      content = (saved, last)) :
    made.Grown last ∧
      findings cluster target settings last = findings cluster target settings made ∧
      (gathered cluster target settings last).tally =
        (gathered cluster target settings made).tally ∧
      (gathered cluster target settings last).calls =
        (gathered cluster target settings made).calls ∧
      ∀ again,
        (target.bundle.write (gathered cluster target settings last).tree Report.fileName
            again).1 = saved ∧
        ∀ place,
          (target.bundle.write (gathered cluster target settings last).tree Report.fileName
              again).2.find? place =
            (target.bundle.write (gathered cluster target settings made).tree Report.fileName
              again).2.find? place := by
  obtain ⟨hend, hgrown⟩ := @Operation.performAll_grown (site cluster target) { tree := made } root _
    hstands (@script_tidy cluster target settings made hnames hlists)
  have hlast : (gathered cluster target settings made).tree.Grown last :=
    (@Bundle.put_grown _ _ _ _ _ .replace _ _ report_tidy hend.walk hsaved).1
  have hretraced := retraced_gathered hnames hlists hstands hlast hstageable
  refine ⟨hgrown.trans hlast, findings_again hnames hlists hstands hlast hstageable,
    hretraced.tally, hretraced.calls, ?_⟩
  exact Bundle.replace_again report_tidy hend hsaved hretraced.grown hretraced.between

/-- To run again is to do the same once more, and leaves what one run leaves. If making the
destination fails, then it fails again; and if not, then both runs find the same, tally the same
steps, make the same requests, and save the report or not. In the end every place looks as one run
at the times of the second would have left it. The summary of the installation must not be kept from
being emptied when it can be added to. -/
theorem complete_again (cluster : Cluster) (target : Target) (settings : Settings) (tree : Tree)
    (started finished startedAgain finishedAgain : Calendar.Instant) (hclosed : tree.Closed)
    (hnames : HasPlainNames cluster target settings)
    (hlists : Lists (fun names => ∀ name ∈ names, Cluster.IsObjectName name) cluster target
      settings)
    (hsummary : EmptiesSummary target (target.prepare tree).2) :
    let once := complete cluster target settings started finished tree
    let again := complete cluster target settings startedAgain finishedAgain once.2
    again.1.toOption = once.1.toOption ∧
      ∀ place, again.2.find? place =
        (complete cluster target settings startedAgain finishedAgain tree).2.find? place := by
  dsimp only
  rcases hmade : File.createAll tree target.destination with ⟨fault | _, made⟩
  · -- some of the directories around the destination may be there now, but no more comes to be
    obtain ⟨hsame, hfails⟩ := File.createAll_twice hmade
    rcases htwice : File.createAll made target.destination with ⟨other | _, twice⟩
    · rw [htwice] at hsame
      obtain rfl : twice = made := hsame
      rw [complete_of_error hmade, complete_of_error hmade]
      dsimp only
      rw [complete_of_error htwice]
      exact ⟨rfl, fun _ => rfl⟩
    · rw [htwice] at hfails
      cases hfails
  · obtain ⟨root, hstands⟩ := stands_of_made hmade hclosed
    have hprepared : (target.prepare tree).2 = made := by rw [Target.prepare, hmade]
    have hstageable := (hprepared ▸ hsummary) root hstands.walk
    rcases hsaved : target.bundle.write (gathered cluster target settings made).tree
        Report.fileName (reportContent cluster target settings started finished made) with
      ⟨saved, last⟩
    obtain ⟨hgrown, hfindings, htally, hcalls, hreport⟩ :=
      gathered_again hnames hlists hstands hstageable hsaved
    have hcontent : reportContent cluster target settings startedAgain finishedAgain last =
        reportContent cluster target settings startedAgain finishedAgain made := by
      rw [reportContent, reportContent, hfindings, htally]
    obtain ⟨hresult, hplaces⟩ :=
      hreport (reportContent cluster target settings startedAgain finishedAgain made)
    rw [complete_of_ok hmade, complete_of_ok hmade, hsaved]
    dsimp only
    rw [complete_of_ok (made_again hmade hgrown), hcontent, hfindings, htally, hcalls, hresult]
    exact ⟨rfl, hplaces⟩

/-- The theorem at a bundle in `/b` and a cluster in which everything is found. -/
theorem complete_again_showing :
    HasPlainNames (clusterShowing (.ok [108])) ⟨"o", "n", "/b"⟩ {} ∧
      EmptiesSummary ⟨"o", "n", "/b"⟩
        (Target.prepare ⟨"o", "n", "/b"⟩ ⟨[(["b"], .directory)]⟩).2 ∧
      ((complete (clusterShowing (.ok [108])) ⟨"o", "n", "/b"⟩ {} ⟨2, 0⟩ ⟨3, 0⟩
        (complete (clusterShowing (.ok [108])) ⟨"o", "n", "/b"⟩ {} ⟨0, 0⟩ ⟨1, 0⟩
          ⟨[(["b"], .directory)]⟩).2).1).toOption =
      (complete (clusterShowing (.ok [108])) ⟨"o", "n", "/b"⟩ {} ⟨0, 0⟩ ⟨1, 0⟩
        ⟨[(["b"], .directory)]⟩).1.toOption := by
  have hlists : Lists (fun names => ∀ name ∈ names, Cluster.IsObjectName name)
      (clusterShowing (.ok [108])) ⟨"o", "n", "/b"⟩ {} := lists_clusterShowing (by decide)
  have hworkload : (Instances.foundNamespace (clusterShowing (.ok [108])) {}).toOption =
      some (some "openshift-power-monitoring") := by decide +kernel
  have hnames : HasPlainNames (clusterShowing (.ok [108])) ⟨"o", "n", "/b"⟩ {} := by
    refine ⟨by decide, fun names h name hname => (hlists.deployments names h name hname).isPiece,
      fun ns h => ?_⟩
    rw [h] at hworkload
    obtain rfl : ns = "openshift-power-monitoring" :=
      Option.some.inj (Option.some.inj hworkload)
    decide
  have hclosed : (⟨[(["b"], .directory)]⟩ : Tree).Closed :=
    @File.Tree.Closed.insert .empty [] "b" .empty (by decide) (by decide) _
  have hsummary : EmptiesSummary ⟨"o", "n", "/b"⟩
      (Target.prepare ⟨"o", "n", "/b"⟩ ⟨[(["b"], .directory)]⟩).2 := by
    intro root hroot
    obtain rfl : ["b"] = root := Except.ok.inj hroot
    exact ⟨fun _ => by decide, by decide, by decide⟩
  exact ⟨hnames, hsummary, (complete_again _ _ _ _ _ _ _ _ hclosed hnames hlists hsummary).1⟩

/-- A cluster that shows one line about the subscriptions and nothing else. -/
def clusterOfOneLine : Cluster where
  answer
    | .get query =>
        if query.kind = "subscription" ∧ query.format = .wide then .ok [108, 10]
        else .error (.commandFailed "oc" "1" "")
    | _ => .error (.commandFailed "oc" "1" "")

/-- A target whose destination is spelled by way of the place of the staging file of the summary. -/
def targetThroughSummary : Target := ⟨"o", "n", "o-info/.summary.txt.partial/../.."⟩

/-- To make such a destination puts a directory in the place of the staging file, where nothing was
before. The summary is never emptied then, and the second run adds to what the first one left. -/
theorem complete_doubles_summary :
    HasPlainNames clusterOfOneLine targetThroughSummary {} ∧
      Lists (fun names => ∀ name ∈ names, Cluster.IsObjectName name) clusterOfOneLine
        targetThroughSummary {} ∧
      (complete clusterOfOneLine targetThroughSummary {} ⟨0, 0⟩ ⟨0, 0⟩ .empty).2.content?
          ["o-info", "summary.txt"] = some [108, 10] ∧
      (complete clusterOfOneLine targetThroughSummary {} ⟨0, 0⟩ ⟨0, 0⟩
        (complete clusterOfOneLine targetThroughSummary {} ⟨0, 0⟩ ⟨0, 0⟩ .empty).2).2.content?
          ["o-info", "summary.txt"] = some [108, 10, 108, 10] := by
  have hdeployments : (clusterOfOneLine.deploymentNames targetThroughSummary.ns
      targetThroughSummary.selector).toOption = none := by decide +kernel
  have hworkload : (Instances.foundNamespace clusterOfOneLine {}).toOption = none := by
    decide +kernel
  have hsnapshots : (Monitoring.foundPods clusterOfOneLine {}).toOption = none := by
    decide +kernel
  have hlists : Lists (fun names => ∀ name ∈ names, Cluster.IsObjectName name) clusterOfOneLine
      targetThroughSummary {} := by
    refine ⟨fun names h => ?_, fun ns h => ?_, fun names h => ?_⟩
    · rw [h] at hdeployments
      cases hdeployments
    · rw [h] at hworkload
      cases hworkload
    · rw [h] at hsnapshots
      cases hsnapshots
  have hnames : HasPlainNames clusterOfOneLine targetThroughSummary {} := by
    refine ⟨by decide, fun names h name hname => (hlists.deployments names h name hname).isPiece,
      fun ns h => ?_⟩
    rw [h] at hworkload
    cases hworkload
  exact ⟨hnames, hlists, by decide +kernel, by decide +kernel⟩

end Run

end ClusterBundle
