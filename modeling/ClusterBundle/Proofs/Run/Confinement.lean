import ClusterBundle.Proofs.Script.Footprint
import ClusterBundle.Proofs.Script.Run

/-!
A run stays in its bundle.

Names that a cluster gives become parts of paths in many ways. It does not matter which: every path
that is touched was accepted by the bundle or comes from one that was, and leads down from the
destination. So nothing that a run does or only tries is seen anywhere else.
-/

namespace ClusterBundle

open File (Access Place walk)
open File.Access (Fits Leads)
open ClusterBundle.Path (components)

namespace File

/-- A place strictly below another one. -/
def Below (root place : Place) : Prop := ∃ names, names ≠ [] ∧ place = root ++ names

/-- A path leads into a directory: it has its components and others that do not lead up. -/
def LiesIn (directory path : String) : Prop := ∃ names, Leads directory path names

/-- A path leads to something in a directory, and not only to the directory. -/
def LiesBelow (directory path : String) : Prop :=
  ∃ names, names ≠ [] ∧ Leads directory path names

/-- A change that stays with some ways from a directory is not seen outside of it. -/
theorem Tree.Change.outside {before after : Tree} {root place : Place}
    {files directories : List String → Prop}
    (h : before.Change (Access.placesBy root files) (Access.placesBy root directories) after)
    (hroot : before.find? root = some .directory) (hplace : ¬ Below root place) :
    after.find? place = before.find? place := by
  by_cases hsame : place = root
  · rw [hsame, hroot, h.kept root hroot]
  · have hnot : ∀ ways, ¬ Access.placesBy root ways place := by
      rintro ways ⟨names, -, rfl⟩
      refine hplace ⟨names, ?_, rfl⟩
      rintro rfl
      exact hsame (List.append_nil root)
    exact h.same (hnot files) (hnot directories)

end File

/-- The accesses of saving a report. -/
def Report.accesses (report : Report) (tree : File.Tree) : List Access :=
  ({ root := report.target.destination : Bundle }).writeAccesses tree fileName
    (Utf8.encode report.json.pretty)

theorem Report.performAll_accesses (report : Report) (tree : File.Tree) :
    Access.performAll tree (report.accesses tree) = (report.save tree).2 :=
  Bundle.performAll_writeAccesses _ tree fileName (Utf8.encode report.json.pretty)

theorem Report.fits_accesses {report : Report} {tree : File.Tree} {root : Place}
    (hroot : walk tree [] (components report.target.destination) = .ok root) :
    ∀ access ∈ report.accesses tree,
      Fits report.target.destination (Bundle.filesOf fileName) (Bundle.around fileName) access :=
  Bundle.fits_writeAccesses hroot

namespace Run

/-- All accesses of a run and of saving its report. -/
def accesses (cluster : Cluster) (target : Target) (settings : Settings) (tree : File.Tree)
    (started finished : Calendar.Instant) : List Access :=
  let (findings, progress) := run cluster target settings tree
  Operation.accessesAll (site cluster target) { tree } (script cluster target settings tree) ++
    (report target findings progress.tally started finished).accesses progress.tree

/-- The tree that a run and saving its report leave. -/
def savedTree (cluster : Cluster) (target : Target) (settings : Settings) (tree : File.Tree)
    (started finished : Calendar.Instant) : File.Tree :=
  let (findings, progress) := run cluster target settings tree
  ((report target findings progress.tally started finished).save progress.tree).2

variable {cluster : Cluster} {target : Target} {settings : Settings} {tree : File.Tree}
  {started finished : Calendar.Instant} {root : Place}

theorem run_tree :
    (run cluster target settings tree).2.tree =
      Access.performAll tree
        (Operation.accessesAll (site cluster target) { tree }
          (script cluster target settings tree)) := by
  have htree := (Progress.silent_eq_iff.1 (run_eq cluster target settings tree).2).1
  rw [htree, Operation.performAll_tree]

theorem performAll_accesses :
    Access.performAll tree (accesses cluster target settings tree started finished) =
      savedTree cluster target settings tree started finished := by
  unfold accesses savedTree
  dsimp only
  rw [Access.performAll_append, ← run_tree, Report.performAll_accesses]

theorem fits_accesses (hroot : walk tree [] (components target.destination) = .ok root) :
    ∀ access ∈ accesses cluster target settings tree started finished,
      Fits target.destination (· ≠ []) (fun _ => True) access := by
  intro access haccess
  have hrun := @Operation.fits_accessesAll (site cluster target) { tree } root hroot
    (script cluster target settings tree)
  rcases List.mem_append.1 haccess with haccess | haccess
  · refine (hrun access haccess).mono (fun names hnames => ?_) fun _ _ => trivial
    obtain ⟨op, -, hop⟩ := hnames
    exact op.files_ne_nil hop
  · have hafter : walk (run cluster target settings tree).2.tree []
        (components target.destination) = .ok root := by
      rw [run_tree]
      exact (File.Access.change_performAll hrun hroot).walk hroot
    have hfits := @Report.fits_accesses (report target _ _ started finished) _ _ hafter access
      haccess
    exact hfits.mono (fun _ => Bundle.filesOf_ne_nil) fun _ _ => trivial

/-- If the destination is a directory, then a run and saving its report touch only paths in it, and
files only below it. At no time is anything outside of it another file or directory than it was
before the run. -/
theorem run_confined (cluster : Cluster) (target : Target) (settings : Settings)
    (tree : File.Tree) (started finished : Calendar.Instant) (root : Place)
    (hroot : File.stat tree target.destination = .ok (root, .directory)) :
    Access.performAll tree (accesses cluster target settings tree started finished) =
        savedTree cluster target settings tree started finished ∧
      (∀ access ∈ accesses cluster target settings tree started finished,
        (∀ path ∈ access.paths, File.LiesIn target.destination path) ∧
          ∀ path ∈ access.files, File.LiesBelow target.destination path) ∧
      ∀ done, done <+: accesses cluster target settings tree started finished →
        ∀ place, ¬ File.Below root place →
          (Access.performAll tree done).find? place = tree.find? place := by
  have hwalk := File.walk_of_stat hroot
  have hfits := @fits_accesses cluster target settings tree started finished root hwalk
  refine ⟨performAll_accesses, fun access haccess => ⟨(hfits access haccess).paths, ?_⟩,
    fun done hdone place hplace => ?_⟩
  · intro path hpath
    obtain ⟨names, hleads, hnames⟩ := (hfits access haccess).files path hpath
    exact ⟨names, hnames, hleads⟩
  -- the accesses made so far fit as well, because all of them do
  have hchange := Access.change_performAll (fun access haccess =>
    hfits access (hdone.subset haccess)) hwalk
  exact hchange.outside (File.Tree.Open.root.walk hwalk).directory hplace

/-- The theorem at a bundle in `/b`, next to a file, and a cluster that answers everything. -/
theorem run_confined_beside_file :
    File.stat ⟨[(["b"], .directory), (["c"], .file [1])]⟩ "/b" = .ok (["b"], .directory) ∧
      (savedTree { answer := fun _ => .ok [2] } ⟨"../c", "/", "/b"⟩ {}
        ⟨[(["b"], .directory), (["c"], .file [1])]⟩ ⟨0, 0⟩ ⟨0, 0⟩).find? ["c"] =
          some (.file [1]) := by
  have hroot : File.stat ⟨[(["b"], .directory), (["c"], .file [1])]⟩ "/b" =
      .ok (["b"], .directory) := by rfl
  refine ⟨hroot, ?_⟩
  obtain ⟨hall, -, hconfined⟩ := run_confined { answer := fun _ => .ok [2] } ⟨"../c", "/", "/b"⟩ {}
    ⟨[(["b"], .directory), (["c"], .file [1])]⟩ ⟨0, 0⟩ ⟨0, 0⟩ ["b"] hroot
  have hplace : ¬ File.Below ["b"] ["c"] := by
    rintro ⟨names, -, hnames⟩
    simp at hnames
  rw [← hall, hconfined _ (List.prefix_refl _) ["c"] hplace]
  rfl

end Run

end ClusterBundle
