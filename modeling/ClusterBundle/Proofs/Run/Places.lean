import ClusterBundle.CommandLine.Program
import ClusterBundle.Proofs.Cluster.Listing
import ClusterBundle.Proofs.Cluster.Names
import ClusterBundle.Proofs.Run.Isolation
import ClusterBundle.Proofs.Run.Writings

/-!
Where the artefacts of a run are put.

The outputs of a run are made of fixed names, of the name of the operator, and of names that the
cluster tells. Two writings of different stages are told apart by their last names or by how deep
they are, and only the logs of the second stage need more than that.
-/

namespace ClusterBundle

open ClusterBundle.Path (components IsName)
open Operation (writings)

/-! ### All that a run can put into the bundle

A run leaves out what it does not find. If nothing is left out, its writings are these, where the
logs and the pods are named by the cluster. -/

/-- Two writings do not get in each other's way: if they go to the same place, then both of them add
to one that is for that. -/
def Writing.Apart (summary : List String) (a b : Writing) : Prop :=
  a.place = b.place → a = ⟨.append, summary⟩ ∧ b = ⟨.append, summary⟩

namespace Run

/-- What is put into the directory of each pod of the exporter. -/
def podWritings (pod : String) : List Writing :=
  Exporter.podFiles.map fun name => .whole [Exporter.directory, pod, name]

/-- What is put into the directory of each monitoring pod. -/
def snapshotWritings (pod : String) : List Writing :=
  Monitoring.snapshots.map fun (_, file) =>
    .whole (Monitoring.directory :: pod :: components file)

/-- The files of monitoring that are there once. -/
def monitoringFiles : List String := [Monitoring.certificatesName, "rules.json"]

/-- What the stages from the fourth on can put into the bundle besides the events, and the report
behind them. -/
def laterWritings (pods snapshots : List String) : List Writing :=
  (Exporter.files.map fun name => .whole [name]) ++
    (pods.flatMap podWritings ++
      ((monitoringFiles.map fun name => .whole [Monitoring.directory, name]) ++
        (snapshots.flatMap snapshotWritings ++ [.whole [Report.fileName]])))

/-- What the second stage can put into its directory. -/
def installWritings (directory : String) (logs : List String) (count : Nat) : List Writing :=
  (Install.objectFiles true true ++ logs).map (fun name => .whole [directory, name]) ++
    List.replicate count ⟨.append, [directory, "summary.txt"]⟩

/-- What the first stage puts into its directory. -/
def lifecycleWritings : List Writing :=
  Lifecycle.files.map fun name => .whole [Lifecycle.directory, name]

variable {summary events pods snapshots place : List String} {front rest : List Writing}

theorem pairwise_append (hfront : front.Pairwise (Writing.Apart summary))
    (hrest : rest.Pairwise (Writing.Apart summary))
    (h : ∀ a ∈ front, ∀ b ∈ rest, a.place ≠ b.place) :
    (front ++ rest).Pairwise (Writing.Apart summary) :=
  List.pairwise_append.2 ⟨hfront, hrest, fun a ha b hb heq => absurd heq (h a ha b hb)⟩

/-- Files with different names in one directory. -/
theorem pairwise_map {names : List String} (hnames : names.Nodup) (directory : List String) :
    (names.map fun name => Writing.whole (directory ++ [name])).Pairwise
      (Writing.Apart summary) := by
  refine List.pairwise_map.2 (hnames.imp fun hne heq => ?_)
  exact absurd (List.append_cancel_left heq) (by simpa using hne)

/-- Files in the directories of different pods. -/
theorem pairwise_flatMap {f : String → List Writing} (hpods : pods.Nodup)
    (heach : ∀ pod, (f pod).Pairwise (Writing.Apart summary))
    (hdirectory : ∀ pod, ∀ w ∈ f pod, ∃ top inside, w.place = top :: pod :: inside) :
    (pods.flatMap f).Pairwise (Writing.Apart summary) := by
  refine List.pairwise_flatMap.2 ⟨fun pod _ => heach pod, hpods.imp fun hne a ha b hb heq => ?_⟩
  obtain ⟨_, _, ha⟩ := hdirectory _ a ha
  obtain ⟨_, _, hb⟩ := hdirectory _ b hb
  rw [ha, hb] at heq
  exact absurd (List.cons.inj (List.cons.inj heq).2).1 hne

/-- The last name of what is asked of a monitoring pod. -/
theorem components_snapshot {entry : String × String} (h : entry ∈ Monitoring.snapshots) :
    ∃ inside name, components entry.2 = inside ++ [name] ∧
      ¬ "_events".toList <:+ name.toList := by
  simp only [Monitoring.snapshots, List.mem_cons, List.not_mem_nil, or_false] at h
  rcases h with rfl | rfl | rfl | rfl
  · exact ⟨["status"], "runtimeinfo.json", rfl, by decide⟩
  · exact ⟨["status"], "config.json", rfl, by decide⟩
  · exact ⟨[], "active-targets.json", rfl, by decide⟩
  · exact ⟨["status"], "tsdb.json", rfl, by decide⟩

theorem mem_podWritings {w : Writing} (h : w ∈ pods.flatMap podWritings) :
    ∃ pod, ∃ name ∈ Exporter.podFiles, w.place = [Exporter.directory, pod, name] := by
  obtain ⟨pod, -, hw⟩ := List.mem_flatMap.1 h
  obtain ⟨name, hname, rfl⟩ := List.mem_map.1 hw
  exact ⟨pod, name, hname, rfl⟩

theorem mem_snapshotWritings {w : Writing} (h : w ∈ snapshots.flatMap snapshotWritings) :
    ∃ pod, ∃ entry ∈ Monitoring.snapshots,
      w.place = Monitoring.directory :: pod :: components entry.2 := by
  obtain ⟨pod, -, hw⟩ := List.mem_flatMap.1 h
  obtain ⟨entry, hentry, rfl⟩ := List.mem_map.1 hw
  exact ⟨pod, entry, hentry, rfl⟩

/-- Where the files of the last stages can be. -/
theorem mem_laterWritings {w : Writing} (h : w ∈ laterWritings pods snapshots) :
    (∃ name ∈ Exporter.files, w.place = [name]) ∨
      (∃ pod, ∃ name ∈ Exporter.podFiles, w.place = [Exporter.directory, pod, name]) ∨
      (∃ name ∈ monitoringFiles, w.place = [Monitoring.directory, name]) ∨
      (∃ pod, ∃ entry ∈ Monitoring.snapshots,
        w.place = Monitoring.directory :: pod :: components entry.2) ∨
      w.place = [Report.fileName] := by
  rcases List.mem_append.1 h with h | h
  · obtain ⟨name, hname, rfl⟩ := List.mem_map.1 h
    exact .inl ⟨name, hname, rfl⟩
  rcases List.mem_append.1 h with h | h
  · exact .inr (.inl (mem_podWritings h))
  rcases List.mem_append.1 h with h | h
  · obtain ⟨name, hname, rfl⟩ := List.mem_map.1 h
    exact .inr (.inr (.inl ⟨name, hname, rfl⟩))
  rcases List.mem_append.1 h with h | h
  · exact .inr (.inr (.inr (.inl (mem_snapshotWritings h))))
  · obtain rfl := List.mem_singleton.1 h
    exact .inr (.inr (.inr (.inr rfl)))

/-- The events are in a file whose name nothing else has. -/
def AreEvents (events : List String) : Prop :=
  ∃ around name, events = around ++ [name] ∧ "_events".toList <:+ name.toList

/-- The part behind the last mark grows with the text. -/
theorem splitChars_append {mark : Char} {rest : List Char} (hrest : mark ∉ rest)
    (text : List Char) :
    ∃ front part, Text.splitChars mark (text ++ rest) = front ++ [part ++ rest] := by
  induction text with
  | nil => exact ⟨[], [], Text.splitChars_of_not_mem hrest⟩
  | cons c text ih =>
      obtain ⟨front, part, ih⟩ := ih
      rw [List.cons_append]
      cases front with
      | nil =>
          by_cases hc : c = mark
          · exact ⟨[[]], part, by simp [Text.splitChars, ih, hc]⟩
          · exact ⟨[], c :: part, by simp [Text.splitChars, ih, hc]⟩
      | cons first front =>
          by_cases hc : c = mark
          · exact ⟨[] :: first :: front, part, by simp [Text.splitChars, ih, hc]⟩
          · exact ⟨(c :: first) :: front, part, by simp [Text.splitChars, ih, hc]⟩

/-- Whatever the namespace is called, also with slashes in it. -/
theorem areEvents_eventsFile (ns : String) : AreEvents (components (Exporter.eventsFile ns)) := by
  obtain ⟨front, part, hsplit⟩ :=
    @splitChars_append '/' "_events".toList (by decide) ns.toList
  have htext : (Exporter.eventsFile ns).toList = ns.toList ++ "_events".toList :=
    String.toList_append
  have hlast : String.ofList (part ++ "_events".toList) = String.ofList part ++ "_events" := by
    rw [← String.toList_inj, String.toList_append, @String.toList_ofList part,
      @String.toList_ofList (part ++ "_events".toList)]
  have hpieces : Path.pieces (Exporter.eventsFile ns) =
      front.map String.ofList ++ [String.ofList part ++ "_events"] := by
    rw [Path.pieces, Text.split, htext, hsplit, List.map_append, ← hlast]
    rfl
  have hidle : Path.isIdle (String.ofList part ++ "_events") = false := by
    simp [Path.isIdle, @Path.append_ne "_events" "" (by decide),
      @Path.append_ne "_events" "." (by decide)]
  refine ⟨(front.map String.ofList).filter (fun piece => !Path.isIdle piece),
    String.ofList part ++ "_events", ?_, ⟨part, ?_⟩⟩
  · rw [components, hpieces, List.filter_append, List.filter_cons_of_pos (by rw [hidle]; rfl),
      List.filter_nil]
  · rw [String.toList_append, @String.toList_ofList part]

theorem AreEvents.ne (h : AreEvents events) {around : List String} {name : String}
    (hname : ¬ "_events".toList <:+ name.toList) : events ≠ around ++ [name] := by
  obtain ⟨_, last, rfl, hlast⟩ := h
  intro heq
  obtain ⟨-, hsingle⟩ := List.append_inj' heq rfl
  exact hname ((List.cons.inj hsingle).1 ▸ hlast)

/-- The events are beside all of the others. -/
theorem AreEvents.ne_later (h : AreEvents events) {w : Writing}
    (hw : w ∈ laterWritings pods snapshots) : events ≠ w.place := by
  rcases mem_laterWritings hw with ⟨name, hname, hplace⟩ | ⟨pod, name, hname, hplace⟩ |
    ⟨name, hname, hplace⟩ | ⟨pod, entry, hentry, hplace⟩ | hplace
  · rw [hplace]
    exact @ne _ h [] name ((by decide :
      ∀ name ∈ Exporter.files, ¬ "_events".toList <:+ name.toList) name hname)
  · rw [hplace]
    exact @ne _ h [_, pod] name ((by decide :
      ∀ name ∈ Exporter.podFiles, ¬ "_events".toList <:+ name.toList) name hname)
  · rw [hplace]
    exact @ne _ h [_] name ((by decide :
      ∀ name ∈ monitoringFiles, ¬ "_events".toList <:+ name.toList) name hname)
  · obtain ⟨inside, name, heq, hname⟩ := components_snapshot hentry
    rw [hplace, heq]
    exact @ne _ h (_ :: pod :: inside) name hname
  · rw [hplace]
    exact @ne _ h [] _ (by decide)

theorem pairwise_podWritings (hpods : pods.Nodup) :
    (pods.flatMap podWritings).Pairwise (Writing.Apart summary) := by
  refine pairwise_flatMap hpods (fun pod => pairwise_map (by decide) [Exporter.directory, pod])
    fun pod w hw => ?_
  obtain ⟨name, -, rfl⟩ := List.mem_map.1 hw
  exact ⟨_, _, rfl⟩

theorem pairwise_snapshotWritings (hsnapshots : snapshots.Nodup) :
    (snapshots.flatMap snapshotWritings).Pairwise (Writing.Apart summary) := by
  refine pairwise_flatMap hsnapshots (fun pod => ?_) fun pod w hw => ?_
  · refine List.pairwise_map.2 (List.Pairwise.imp ?_
      (by decide : Monitoring.snapshots.Pairwise fun a b => components a.2 ≠ components b.2))
    intro a b hne heq
    exact absurd (List.cons.inj (List.cons.inj heq).2).2 hne
  · obtain ⟨entry, -, rfl⟩ := List.mem_map.1 hw
    exact ⟨_, _, rfl⟩

/-- What the last stages put into the bundle does not get in each other's way. -/
theorem pairwise_laterWritings (hpods : pods.Nodup) (hsnapshots : snapshots.Nodup) :
    (laterWritings pods snapshots).Pairwise (Writing.Apart summary) := by
  -- the families are told apart by how deep their files are and by the directories at the top
  refine pairwise_append (pairwise_map (by decide) []) (pairwise_append
    (pairwise_podWritings hpods) (pairwise_append
      (pairwise_map (by decide) [Monitoring.directory]) (pairwise_append
        (pairwise_snapshotWritings hsnapshots) (List.pairwise_singleton _ _)
        ?_) ?_) ?_) ?_
  · intro a ha b hb
    obtain ⟨pod, entry, -, ha⟩ := mem_snapshotWritings ha
    obtain rfl := List.mem_singleton.1 hb
    simp [ha, Writing.whole]
  · intro a ha b hb
    obtain ⟨name, hname, rfl⟩ := List.mem_map.1 ha
    rcases List.mem_append.1 hb with hb | hb
    · obtain ⟨pod, entry, hentry, hb⟩ := mem_snapshotWritings hb
      obtain ⟨inside, last, heq, -⟩ := components_snapshot hentry
      simp [hb, heq, Writing.whole]
    · obtain rfl := List.mem_singleton.1 hb
      simp [Writing.whole]
  · intro a ha b hb
    obtain ⟨pod, name, -, ha⟩ := mem_podWritings ha
    have hdirectory : Exporter.directory ≠ Monitoring.directory := by decide
    rcases List.mem_append.1 hb with hb | hb
    · obtain ⟨other, -, rfl⟩ := List.mem_map.1 hb
      simp [ha, Writing.whole]
    rcases List.mem_append.1 hb with hb | hb
    · obtain ⟨other, entry, -, hb⟩ := mem_snapshotWritings hb
      simp [ha, hb, hdirectory]
    · obtain rfl := List.mem_singleton.1 hb
      simp [ha, Writing.whole]
  · intro a ha b hb
    obtain ⟨name, hname, rfl⟩ := List.mem_map.1 ha
    rcases List.mem_append.1 hb with hb | hb
    · obtain ⟨pod, last, -, hb⟩ := mem_podWritings hb
      simp [hb, Writing.whole]
    rcases List.mem_append.1 hb with hb | hb
    · obtain ⟨last, -, rfl⟩ := List.mem_map.1 hb
      simp [Writing.whole]
    rcases List.mem_append.1 hb with hb | hb
    · obtain ⟨pod, entry, -, hb⟩ := mem_snapshotWritings hb
      simp [hb, Writing.whole]
    · obtain rfl := List.mem_singleton.1 hb
      have hreport : name ≠ Report.fileName :=
        (by decide : ∀ name ∈ Exporter.files, name ≠ Report.fileName) name hname
      simpa [Writing.whole] using hreport

/-! ### The first two stages -/

/-- The logs of deployments have names of their own. -/
theorem nodup_logs {deployments : List String} (h : deployments.Nodup) :
    (deployments.map (Install.logFile deployments)).Nodup := by
  refine List.pairwise_map.2 ?_
  by_cases hsingle : deployments.length = 1
  · obtain ⟨name, rfl⟩ := List.length_eq_one_iff.1 hsingle
    exact List.pairwise_singleton _ _
  · refine h.imp fun hne heq => hne ?_
    unfold Install.logFile at heq
    rw [if_neg hsingle, if_neg hsingle] at heq
    exact String.append_left_inj _ |>.1 heq

/-- The log of a deployment is in the place of a log of the lifecycle manager only if the operator
has several deployments and that one is named as a controller of the lifecycle manager. -/
theorem logFile_mem_lifecycle {deployments : List String} {name : String}
    (h : Install.logFile deployments name ∈ Lifecycle.files) :
    deployments.length ≠ 1 ∧ (name = "olm-operator" ∨ name = "catalog-operator") := by
  unfold Install.logFile at h
  split at h
  · exact absurd h (by decide)
  · rename_i hlength
    refine ⟨hlength, ?_⟩
    have hlog : s!"{name}.log" = "olm-operator.log" ∨ s!"{name}.log" = "catalog-operator.log" := by
      simp only [Lifecycle.files, List.mem_cons, List.not_mem_nil, or_false] at h
      rcases h with h | h | h | h
      · exact absurd h (@Path.append_ne ".log" _ (by decide) name)
      · exact absurd h (@Path.append_ne ".log" _ (by decide) name)
      · exact .inl h
      · exact .inr h
    exact hlog.imp (String.append_left_inj ".log").1 (String.append_left_inj ".log").1

/-- The files of the second stage. -/
theorem mem_installWritings {directory : String} {logs : List String} {count : Nat} {w : Writing}
    (h : w ∈ installWritings directory logs count) :
    ∃ name, w.place = [directory, name] ∧ (name ∈ Install.files ∨ name ∈ logs) := by
  rcases List.mem_append.1 h with h | h
  · obtain ⟨name, hname, rfl⟩ := List.mem_map.1 h
    refine ⟨name, rfl, (List.mem_append.1 hname).imp_left fun hname => ?_⟩
    exact (Install.objectFiles_sublist true true).subset hname
  · obtain rfl := List.eq_of_mem_replicate h
    exact ⟨_, rfl, .inl (by decide)⟩

theorem pairwise_installWritings {directory : String} {logs : List String} (hnodup : logs.Nodup)
    (hlogs : ∀ name ∈ logs, ".log".toList <:+ name.toList) (count : Nat) :
    (installWritings directory logs count).Pairwise
      (Writing.Apart [directory, "summary.txt"]) := by
  have hsuffix : ∀ name ∈ Install.files, ¬ ".log".toList <:+ name.toList := by decide
  refine pairwise_append (pairwise_map ?_ [directory]) ?_ fun a ha b hb => ?_
  · refine List.nodup_append.2 ⟨by decide, hnodup, fun a ha b hb heq => ?_⟩
    exact hsuffix a ((Install.objectFiles_sublist true true).subset ha) (heq ▸ hlogs b hb)
  · -- all that is added to the summary may be added to it
    exact List.pairwise_replicate.2 (.inr fun _ => ⟨rfl, rfl⟩)
  · obtain ⟨name, hname, rfl⟩ := List.mem_map.1 ha
    obtain rfl := List.eq_of_mem_replicate hb
    have hother : name ≠ "summary.txt" := by
      rcases List.mem_append.1 hname with hname | hname
      · exact (by decide : ∀ name ∈ Install.objectFiles true true, name ≠ "summary.txt") name hname
      · rintro rfl
        exact absurd (hlogs _ hname) (by decide)
    simpa [Writing.whole] using hother

/-- A file in a directory of the first two stages is not one of the later ones. -/
theorem ne_later_of_two {w : Writing} {directory name : String}
    (hmonitoring : name ∉ monitoringFiles) (hw : w ∈ laterWritings pods snapshots) :
    [directory, name] ≠ w.place := by
  rcases mem_laterWritings hw with ⟨other, -, hplace⟩ | ⟨pod, other, -, hplace⟩ |
    ⟨other, hother, hplace⟩ | ⟨pod, entry, hentry, hplace⟩ | hplace
  · simp [hplace]
  · simp [hplace]
  · rw [hplace]
    rintro heq
    obtain ⟨-, hrest⟩ := List.cons.inj heq
    exact hmonitoring ((List.cons.inj hrest).1 ▸ hother)
  · obtain ⟨inside, last, heq, -⟩ := components_snapshot hentry
    simp [hplace, heq]
  · simp [hplace]

/-- Neither is a file beside the directories, unless it has the name of one. -/
theorem ne_later_of_one {w : Writing} {name : String} (hobjects : name ∉ Exporter.files)
    (hreport : name ≠ Report.fileName) (hw : w ∈ laterWritings pods snapshots) :
    [name] ≠ w.place := by
  rcases mem_laterWritings hw with ⟨other, hother, hplace⟩ | ⟨pod, other, -, hplace⟩ |
    ⟨other, -, hplace⟩ | ⟨pod, entry, -, hplace⟩ | hplace
  · rw [hplace]
    rintro heq
    exact hobjects ((List.cons.inj heq).1 ▸ hother)
  · simp [hplace]
  · simp [hplace]
  · simp [hplace]
  · simpa [hplace] using hreport

/-! ### The whole run -/

/-- All that a run can put into the bundle, with its report. -/
def allWritings (directory : String) (logs : List String) (count : Nat)
    (events pods snapshots : List String) : List Writing :=
  lifecycleWritings ++
    (installWritings directory logs count ++
      ((Instances.files.map fun name => .whole [name]) ++
        .whole events :: laterWritings pods snapshots))

section

variable {directory : String} {logs : List String}
  (hlogs : ∀ name ∈ logs, ".log".toList <:+ name.toList) (hevents : AreEvents events)

include hlogs hevents

/-- The files of the first two stages are apart from all that come later. -/
theorem ne_later {name : String}
    (hname : name ∈ Lifecycle.files ∨ name ∈ Install.files ∨ name ∈ logs)
    {w : Writing} (hw : w ∈ (Instances.files.map fun name => Writing.whole [name]) ++
      .whole events :: laterWritings pods snapshots) : [directory, name] ≠ w.place := by
  have hplain : name ∉ monitoringFiles ∧ ¬ "_events".toList <:+ name.toList := by
    rcases hname with hname | hname | hname
    · exact (by decide : ∀ name ∈ Lifecycle.files,
        name ∉ monitoringFiles ∧ ¬ "_events".toList <:+ name.toList) name hname
    · exact (by decide : ∀ name ∈ Install.files,
        name ∉ monitoringFiles ∧ ¬ "_events".toList <:+ name.toList) name hname
    · have hlog := hlogs name hname
      constructor
      · intro hmonitoring
        exact (by decide : ∀ name ∈ monitoringFiles, ¬ ".log".toList <:+ name.toList) name
          hmonitoring hlog
      · -- both would be the last characters
        intro hsuffix
        obtain ⟨front, hfront⟩ := hsuffix
        obtain ⟨other, hother⟩ := hlog
        have hlast := congrArg List.getLast? (hfront.trans hother.symm)
        simp at hlast
  rcases List.mem_append.1 hw with hw | hw
  · obtain ⟨other, -, rfl⟩ := List.mem_map.1 hw
    simp [Writing.whole]
  rcases List.mem_cons.1 hw with rfl | hw
  · exact (@AreEvents.ne _ hevents [directory] name hplain.2).symm
  · exact ne_later_of_two hplain.1 hw

/-- Nothing that a run can put into the bundle gets in the way of anything else in it, unless the
directory of the second stage is that of the first and a log has the name of one there. -/
theorem pairwise_allWritings (hnodup : logs.Nodup)
    (hapart : directory = Lifecycle.directory → ∀ name ∈ logs, name ∉ Lifecycle.files)
    (hpods : pods.Nodup) (hsnapshots : snapshots.Nodup) (count : Nat) :
    (allWritings directory logs count events pods snapshots).Pairwise
      (Writing.Apart [directory, "summary.txt"]) := by
  have hinstances : ∀ name ∈ Instances.files, name ∉ Exporter.files ∧ name ≠ Report.fileName ∧
      ¬ "_events".toList <:+ name.toList := by decide
  refine pairwise_append (pairwise_map (by decide) [Lifecycle.directory]) (pairwise_append
    (pairwise_installWritings hnodup hlogs count) (pairwise_append (pairwise_map (by decide) [])
      (List.pairwise_cons.2 ⟨?_, pairwise_laterWritings hpods hsnapshots⟩) ?_) ?_) ?_
  · exact fun b hb heq => absurd heq (hevents.ne_later hb)
  · intro a ha b hb
    obtain ⟨name, hname, rfl⟩ := List.mem_map.1 ha
    obtain ⟨hobjects, hreport, hplain⟩ := hinstances name hname
    rcases List.mem_cons.1 hb with rfl | hb
    · exact (@AreEvents.ne _ hevents [] name hplain).symm
    · exact ne_later_of_one hobjects hreport hb
  · intro a ha b hb
    obtain ⟨name, hplace, hname⟩ := mem_installWritings ha
    rw [hplace]
    exact ne_later hlogs hevents (.inr hname) hb
  · intro a ha b hb
    obtain ⟨name, hname, rfl⟩ := List.mem_map.1 ha
    rcases List.mem_append.1 hb with hb | hb
    · obtain ⟨other, hplace, hother⟩ := mem_installWritings hb
      rw [hplace]
      rintro heq
      obtain ⟨hdirectory, hrest⟩ := List.cons.inj heq
      obtain rfl := (List.cons.inj hrest).1
      rcases hother with hother | hother
      · exact (by decide : ∀ name ∈ Lifecycle.files, name ∉ Install.files) name hname hother
      · exact hapart hdirectory.symm name hother hname
    · exact ne_later hlogs hevents (.inl hname) hb

omit hlogs in
/-- And nothing of it is the log of the program. -/
theorem ne_logName {w : Writing} (count : Nat)
    (hw : w ∈ allWritings directory logs count events pods snapshots) :
    w.place ≠ components CommandLine.logName := by
  have hlog : components CommandLine.logName = [CommandLine.logName] := by decide
  rw [hlog]
  rcases List.mem_append.1 hw with hw | hw
  · obtain ⟨name, -, rfl⟩ := List.mem_map.1 hw
    simp [Writing.whole]
  rcases List.mem_append.1 hw with hw | hw
  · obtain ⟨name, hplace, -⟩ := mem_installWritings hw
    simp [hplace]
  rcases List.mem_append.1 hw with hw | hw
  · obtain ⟨name, hname, rfl⟩ := List.mem_map.1 hw
    have hother : name ≠ CommandLine.logName :=
      (by decide : ∀ name ∈ Instances.files, name ≠ CommandLine.logName) name hname
    simpa [Writing.whole] using hother
  rcases List.mem_cons.1 hw with rfl | hw
  · exact @AreEvents.ne _ hevents [] _ (by decide)
  · exact (ne_later_of_one (by decide) (by decide) hw).symm

end

/-- What a run puts into the bundle, step by step, and its report behind it. -/
def artefacts (cluster : Cluster) (target : Target) (settings : Settings) (tree : File.Tree) :
    List Writing :=
  writings (script cluster target settings tree) ++ [.whole (components Report.fileName)]

variable {cluster : Cluster} {target : Target} {settings : Settings} {tree : File.Tree}

theorem writings_closing (hsnapshots : ∀ pod ∈ Monitoring.listed cluster settings, IsName pod) :
    (writings (Monitoring.accessScript cluster settings ++
        closing cluster target settings tree)).Sublist
      ((monitoringFiles.map fun name => .whole [Monitoring.directory, name]) ++
        (Monitoring.listed cluster settings).flatMap snapshotWritings) := by
  have hfront := Monitoring.writings_accessScript cluster settings
  rw [Operation.writings_append]
  unfold closing
  cases haccess : access cluster target settings tree with
  | error fault =>
      rw [Operation.writings_cons, Operation.writings_nil]
      exact (List.append_nil _).symm ▸ hfront.trans (List.sublist_append_left _ _)
  | ok reached =>
      obtain ⟨certificates, hfound, -⟩ := Monitoring.access_eq_ok haccess
      obtain ⟨host, token, pods, -, -, hpods, -, rfl⟩ := Monitoring.found_eq_ok hfound
      have hlisted : Monitoring.listed cluster settings = pods := by
        rw [Monitoring.listed, hpods]
        rfl
      rw [hlisted] at hsnapshots ⊢
      dsimp only
      rw [Monitoring.script, Operation.writings_append, ← List.append_assoc,
        Operation.writings_flatMap fun pod hpod => Monitoring.writings_pod settings
          (hsnapshots pod hpod)]
      exact (hfront.append (Monitoring.writings_rulesScript _ _ _)).append (List.Sublist.refl _)

theorem writings_exporter
    (hpods : ∀ pod ∈ exporterPods cluster target settings tree, IsName pod) :
    ∃ ns, (writings (Exporter.script cluster
      (workloadNamespace cluster target settings tree))).Sublist
        (.whole (components (Exporter.eventsFile ns)) ::
          ((Exporter.files.map fun name => .whole [name]) ++
            (exporterPods cluster target settings tree).flatMap podWritings)) := by
  unfold exporterPods at hpods ⊢
  cases hworkload : workloadNamespace cluster target settings tree with
  | none => exact ⟨"", List.nil_sublist _⟩
  | some ns =>
      rw [hworkload] at hpods
      exact ⟨ns, Exporter.writings_script cluster ns hpods ▸ .refl _⟩

/-- The writings of a run are among all those that there can be. -/
theorem artefacts_sublist (hoperator : Path.IsPiece target.operator)
    (hdeployments : ∀ name ∈ Install.listed cluster target, Path.IsPiece name)
    (hpods : ∀ pod ∈ exporterPods cluster target settings tree, IsName pod)
    (hsnapshots : ∀ pod ∈ Monitoring.listed cluster settings, IsName pod) :
    ∃ count ns, (artefacts cluster target settings tree).Sublist
      (allWritings target.installDirectory
        ((Install.listed cluster target).map (Install.logFile (Install.listed cluster target)))
        count (components (Exporter.eventsFile ns)) (exporterPods cluster target settings tree)
        (Monitoring.listed cluster settings)) := by
  obtain ⟨catalog, plan, count, hinstall⟩ :=
    @Install.writings_script cluster target hoperator hdeployments
  obtain ⟨ns, hexporter⟩ := writings_exporter hpods
  have hclosing := @writings_closing cluster target settings tree hsnapshots
  have hinstallSublist : (writings (Install.script cluster target)).Sublist
      (installWritings target.installDirectory
        ((Install.listed cluster target).map (Install.logFile (Install.listed cluster target)))
        count) := by
    rw [hinstall]
    refine .append (.map _ (.append ?_ (.refl _))) (.refl _)
    cases catalog <;> cases plan <;> decide
  have hinstances : (writings (Instances.script cluster settings
      (internalsCollected cluster target tree))).Sublist
        (Instances.files.map fun name => .whole [name]) := by
    rw [Instances.writings_script]
    refine .map _ ?_
    split
    · exact .refl _
    · decide
  have hall := (List.Sublist.refl (lifecycleWritings)).append (hinstallSublist.append
    (hinstances.append (hexporter.append (hclosing.append
      (List.Sublist.refl [Writing.whole [Report.fileName]])))))
  have hreport : components Report.fileName = [Report.fileName] := by decide
  refine ⟨count, ns, ?_⟩
  unfold artefacts script preparation opening
  rw [hreport]
  simp only [Operation.writings_append, Lifecycle.writings_script, List.append_assoc] at hall ⊢
  simpa only [allWritings, laterWritings, lifecycleWritings, List.append_assoc,
    List.cons_append] using hall

/-- The log of a deployment is in the place of a log of the lifecycle manager: the operator is named
so that the second stage uses the directory of the first, and has several deployments, one of them
named as a controller of the lifecycle manager. -/
def Overlaps (cluster : Cluster) (target : Target) : Prop :=
  target.operator = "olm" ∧ ∃ deployments,
    cluster.deploymentNames target.ns target.selector = .ok deployments ∧
      deployments.length ≠ 1 ∧ ("olm-operator" ∈ deployments ∨ "catalog-operator" ∈ deployments)

/-- If the two stages share a directory, then the logs of the second have their own names there. -/
theorem not_mem_lifecycle_of_not_overlaps (h : ¬ Overlaps cluster target)
    (hdirectory : target.installDirectory = Lifecycle.directory) :
    ∀ name ∈ (Install.listed cluster target).map
      (Install.logFile (Install.listed cluster target)), name ∉ Lifecycle.files := by
  intro name hname hmem
  obtain ⟨deployment, hdeployment, rfl⟩ := List.mem_map.1 hname
  obtain ⟨hlength, hcontroller⟩ := logFile_mem_lifecycle hmem
  refine h ⟨(String.append_left_inj "-info").1 hdirectory, ?_⟩
  unfold Install.listed at hdeployment hlength
  cases hnames : cluster.deploymentNames target.ns target.selector with
  | error failure => simp [hnames, Except.toOption] at hdeployment
  | ok names =>
      rw [hnames] at hdeployment hlength
      refine ⟨names, rfl, hlength, hcontroller.imp ?_ ?_⟩
      · rintro rfl
        exact hdeployment
      · rintro rfl
        exact hdeployment

/-- No artefact of a run is overwritten by a later one, unless the names of the operator and its
deployments make the second stage overlap with the first: if two steps put something into the same
place, then both add to the summary of the installation. The report that is saved behind the run is
apart from all steps, and so is the log of the program. -/
theorem run_keeps_artefacts (cluster : Cluster) (target : Target) (settings : Settings)
    (tree : File.Tree) (hoperator : Cluster.IsLabel target.operator)
    (hlists : Lists (fun names => names.Nodup ∧ ∀ name ∈ names, Cluster.IsObjectName name) cluster
      target settings)
    (hapart : ¬ Overlaps cluster target) :
    (run cluster target settings tree).2.silent =
        (Operation.performAll (site cluster target) { tree }
          (script cluster target settings tree)).silent ∧
      (artefacts cluster target settings tree).Pairwise
        (Writing.Apart [target.installDirectory, "summary.txt"]) ∧
      ∀ w ∈ artefacts cluster target settings tree, w.place ≠ components CommandLine.logName := by
  obtain ⟨hdeployments, hpods, hsnapshots⟩ :=
    @Lists.listed cluster target settings tree _ hlists (by simp)
  obtain ⟨count, ns, hsublist⟩ := @artefacts_sublist cluster target settings tree
    hoperator.isPiece (fun name hname => (hdeployments.2 name hname).isPiece)
    (fun pod hpod => (hpods.2 pod hpod).isName) fun pod hpod => (hsnapshots.2 pod hpod).isName
  have hlogs : ∀ name ∈ (Install.listed cluster target).map
      (Install.logFile (Install.listed cluster target)), ".log".toList <:+ name.toList := by
    intro name hname
    obtain ⟨deployment, hdeployment, rfl⟩ := List.mem_map.1 hname
    exact (Install.isName_logFile (hdeployments.2 _ hdeployment).isPiece).2
  have hevents := areEvents_eventsFile ns
  have hother := @not_mem_lifecycle_of_not_overlaps cluster target hapart
  refine ⟨(run_eq cluster target settings tree).2, ?_, fun w hw => ?_⟩
  · exact (pairwise_allWritings hlogs hevents (nodup_logs hdeployments.1) hother hpods.1
      hsnapshots.1 count).sublist hsublist
  · exact ne_logName hevents count (hsublist.subset hw)

/-- The theorem at a cluster in which everything is found, under one name. -/
theorem run_keeps_artefacts_showing :
    Lists (fun names => names.Nodup ∧ ∀ name ∈ names, Cluster.IsObjectName name)
        (clusterShowing (.ok [108])) ⟨"o", "n", "/b"⟩ {} ∧
      (artefacts (clusterShowing (.ok [108])) ⟨"o", "n", "/b"⟩ {} ⟨[(["b"], .directory)]⟩).Pairwise
        (Writing.Apart ["o-info", "summary.txt"]) := by
  have hlists : Lists (fun names => names.Nodup ∧ ∀ name ∈ names, Cluster.IsObjectName name)
      (clusterShowing (.ok [108])) ⟨"o", "n", "/b"⟩ {} := lists_clusterShowing (by decide)
  exact ⟨hlists, (run_keeps_artefacts _ ⟨"o", "n", "/b"⟩ {} _ (by decide) hlists
    fun h => absurd h.1 (by decide)).2.1⟩

/-- A cluster that lists two deployments and nothing else. Every log says where it is from. -/
def clusterOfTwo : Cluster where
  answer
    | .get query =>
        if query.kind = "deployment" then
          .ok (Utf8.encode ("\x7b\"items\":[" ++
            "\x7b\"metadata\":\x7b\"name\":\"olm-operator\"\x7d\x7d," ++
            "\x7b\"metadata\":\x7b\"name\":\"other\"\x7d\x7d]\x7d"))
        else .error (.commandFailed "oc" "1" "")
    | .logs (.workload ns _) => .ok (Utf8.encode ns)
    | _ => .error (.commandFailed "oc" "1" "")

/-- An operator whose directory is that of the lifecycle manager. -/
def targetOfTwo : Target := ⟨"olm", "n", "/b"⟩

theorem deploymentNames_clusterOfTwo :
    clusterOfTwo.deploymentNames targetOfTwo.ns targetOfTwo.selector =
      .ok ["olm-operator", "other"] := by
  refine Cluster.names_of_sorted ?_ (by decide)
  decide +kernel

/-- The log of the deployment is in the place of the log of the lifecycle manager. -/
theorem run_overwrites_lifecycle_log :
    Cluster.IsLabel targetOfTwo.operator ∧
      Lists (fun names => names.Nodup ∧ ∀ name ∈ names, Cluster.IsObjectName name) clusterOfTwo
        targetOfTwo {} ∧
      ¬ (artefacts clusterOfTwo targetOfTwo {} ⟨[(["b"], .directory)]⟩).Pairwise
        (Writing.Apart ["olm-info", "summary.txt"]) := by
  have hdeployments := deploymentNames_clusterOfTwo
  have hworkload : (Instances.foundNamespace clusterOfTwo {}).toOption = none := by
    decide +kernel
  have hsnapshots : (Monitoring.foundPods clusterOfTwo {}).toOption = none := by decide +kernel
  refine ⟨by decide, ⟨fun names h => ?_, fun ns h => ?_, fun names h => ?_⟩, fun hapart => ?_⟩
  · rw [hdeployments] at h
    exact Except.ok.inj h ▸ by decide
  · rw [h] at hworkload
    cases hworkload
  · rw [h] at hsnapshots
    cases hsnapshots
  -- one file, first of the first stage and then of the second
  have hlisted : Install.listed clusterOfTwo targetOfTwo = ["olm-operator", "other"] := by
    rw [Install.listed, hdeployments]
    rfl
  obtain ⟨catalog, plan, count, hinstall⟩ := @Install.writings_script clusterOfTwo
    targetOfTwo (by decide) (by rw [hlisted]; decide)
  have hfirst : ([.whole ["olm-info", "olm-operator.log"]] : List Writing).Sublist
      (writings (Lifecycle.script targetOfTwo)) := by
    rw [Lifecycle.writings_script]
    decide
  have hsecond : ([.whole ["olm-info", "olm-operator.log"]] : List Writing).Sublist
      (writings (Install.script clusterOfTwo targetOfTwo)) := by
    rw [hinstall, hlisted]
    refine List.singleton_sublist.2 (List.mem_append_left _ (List.mem_map.2
      ⟨"olm-operator.log", List.mem_append_right _ (by decide), by decide⟩))
  have htwice : ([.whole ["olm-info", "olm-operator.log"],
      .whole ["olm-info", "olm-operator.log"]] : List Writing).Sublist
        (artefacts clusterOfTwo targetOfTwo {} ⟨[(["b"], .directory)]⟩) := by
    unfold artefacts script preparation opening
    simp only [Operation.writings_append, List.append_assoc]
    exact hfirst.append (hsecond.append (List.nil_sublist _))
  obtain ⟨htwo, -⟩ := List.pairwise_cons.1 (hapart.sublist htwice)
  exact absurd (htwo _ (List.mem_singleton_self _) rfl).1 (by decide)

end Run

end ClusterBundle
