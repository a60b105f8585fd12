import ClusterBundle.Proofs.File.Walk

/-!
What file operations change.

An operation that succeeds changes what is found at the places that its paths lead to and nothing
else, and one that fails changes nothing. `Change` keeps of that what carries over to any number of
operations: which places may get another file, where directories may appear that were not there,
and that a directory stays a directory.
-/

namespace ClusterBundle.File

open ClusterBundle.Path (components)

/-- One tree comes from another by giving files to some places and by making missing directories
at some places. -/
structure Tree.Change (files directories : Place → Prop) (before after : Tree) : Prop where
  off : ∀ place, ¬ files place →
    after.find? place = before.find? place ∨
      directories place ∧ before.find? place = none ∧ after.find? place = some .directory
  kept : ∀ place, before.find? place = some .directory → after.find? place = some .directory

variable {tree grown after : Tree} {place root : Place} {base names : List String}
  {path : String} {spot : Spot} {content : Bytes}

namespace Tree.Change

variable {files directories moreFiles moreDirectories : Place → Prop}

theorem refl (tree : Tree) : Change files directories tree tree :=
  ⟨fun _ _ => .inl rfl, fun _ h => h⟩

theorem trans (h : Change files directories tree grown)
    (hnext : Change files directories grown after) : Change files directories tree after := by
  refine ⟨fun place hplace => ?_, fun place hplace => hnext.kept place (h.kept place hplace)⟩
  rcases hnext.off place hplace with hsame | ⟨hmay, hnone, hmade⟩
  · rw [hsame]
    exact h.off place hplace
  · rcases h.off place hplace with hsame | ⟨-, -, hmade⟩
    · exact .inr ⟨hmay, hsame ▸ hnone, by assumption⟩
    · rw [hmade] at hnone
      cases hnone

theorem mono (h : Change files directories tree grown)
    (hfiles : ∀ place, files place → moreFiles place)
    (hdirectories : ∀ place, directories place → moreDirectories place) :
    Change moreFiles moreDirectories tree grown := by
  refine ⟨fun place hplace => ?_, h.kept⟩
  rcases h.off place (mt (hfiles place) hplace) with hsame | ⟨hmay, hrest⟩
  · exact .inl hsame
  · exact .inr ⟨hdirectories place hmay, hrest⟩

/-- Places that get neither a file nor a directory look as before. -/
theorem same (h : Change files directories tree grown) (hfile : ¬ files place)
    (hdirectory : ¬ directories place) : grown.find? place = tree.find? place := by
  rcases h.off place hfile with hsame | ⟨hmay, -⟩
  · exact hsame
  · exact absurd hmay hdirectory

/-- The way to a directory stays open. -/
theorem walk (h : Change files directories tree grown) {here : Place}
    (hwalk : File.walk tree here names = .ok place) : File.walk grown here names = .ok place :=
  walk_kept h.kept hwalk

end Tree.Change

namespace Tree

/-- Putting something at a place that is not the root is seen there and nowhere else. -/
theorem find?_insert_of_ne {target : Place} (h : target ≠ []) (tree : Tree) (entry : Entry)
    (place : Place) :
    (tree.insert target entry).find? place = if place = target then some entry
      else tree.find? place := by
  by_cases hroot : place = []
  · rw [hroot, if_neg (Ne.symm h)]
    rfl
  · exact find?_insert tree target place entry hroot

theorem ne_root_of_find? {target : Place} (h : tree.find? target ≠ some .directory) :
    target ≠ [] := by
  rintro rfl
  exact h rfl

theorem change_insert_directory {target : Place} (h : tree.find? target = none) :
    Change (fun _ => False) (· = target) tree (tree.insert target .directory) := by
  have hdirectory : tree.find? target ≠ some .directory := by simp [h]
  have hroot : target ≠ [] := ne_root_of_find? hdirectory
  constructor
  · intro place _
    rw [find?_insert_of_ne hroot]
    by_cases hplace : place = target
    · rw [if_pos hplace]
      exact .inr ⟨hplace, hplace ▸ h, rfl⟩
    · rw [if_neg hplace]
      exact .inl rfl
  · intro place hplace
    rw [find?_insert_of_ne hroot]
    split
    · rfl
    · exact hplace

theorem change_insert_file {target : Place} (h : tree.find? target ≠ some .directory)
    (content : Bytes) :
    Change (· = target) (fun _ => False) tree (tree.insert target (.file content)) := by
  have hroot : target ≠ [] := ne_root_of_find? h
  constructor
  · intro place hplace
    rw [find?_insert_of_ne hroot, if_neg hplace]
    exact .inl rfl
  · intro place hplace
    rw [find?_insert_of_ne hroot, if_neg]
    · exact hplace
    · rintro rfl
      exact h hplace

theorem find?_erase_of_ne {target : Place} (h : target ≠ []) (tree : Tree) (place : Place) :
    (tree.erase target).find? place = if place = target then none else tree.find? place := by
  by_cases hroot : place = []
  · rw [hroot, if_neg (Ne.symm h)]
    rfl
  · exact find?_erase tree target place hroot

theorem change_erase {target : Place} (h : tree.find? target ≠ some .directory) :
    Change (· = target) (fun _ => False) tree (tree.erase target) := by
  have hroot : target ≠ [] := ne_root_of_find? h
  constructor
  · intro place hplace
    rw [find?_erase_of_ne hroot, if_neg hplace]
    exact .inl rfl
  · intro place hplace
    rw [find?_erase_of_ne hroot, if_neg]
    · exact hplace
    · rintro rfl
      exact h hplace

end Tree

/-! ### Operations that succeed -/

theorem makeDirectory_ok (h : makeDirectory tree path = .ok grown) :
    ∃ spot, locate tree path = .ok spot ∧ tree.find? spot.place = none ∧
      grown = tree.insert spot.place .directory := by
  unfold makeDirectory at h
  split at h
  · cases h
  · cases h
  · rename_i parent name slash hlocate
    split at h
    · cases h
    · split at h
      · cases h
      · rename_i hnone
        cases h
        exact ⟨_, hlocate, hnone, rfl⟩

theorem openToWrite_ok {old : Bytes} (h : openToWrite tree path = .ok (place, old)) :
    ∃ spot, locate tree path = .ok spot ∧ spot.place = place ∧
      tree.find? place ≠ some .directory := by
  unfold openToWrite at h
  split at h
  · cases h
  · cases h
  · rename_i parent name slash hlocate
    split at h
    · cases h
    split at h
    · cases h
    split at h
    · cases h
    · rename_i found hfound
      cases h
      exact ⟨_, hlocate, rfl, by simp [hfound]⟩
    · rename_i hnone
      cases h
      exact ⟨_, hlocate, rfl, by simp [hnone]⟩

theorem write_ok (h : write tree path content = .ok grown) :
    ∃ spot, locate tree path = .ok spot ∧ tree.find? spot.place ≠ some .directory ∧
      grown = tree.insert spot.place (.file content) := by
  unfold write at h
  cases hopen : openToWrite tree path with
  | error fault => simp [hopen, Except.map] at h
  | ok opened =>
      obtain ⟨place, old⟩ := opened
      obtain ⟨spot, hlocate, rfl, hplace⟩ := openToWrite_ok hopen
      simp only [hopen, Except.map, Except.ok.injEq] at h
      exact ⟨spot, hlocate, hplace, h.symm⟩

theorem append_ok (h : append tree path content = .ok grown) :
    ∃ spot old, locate tree path = .ok spot ∧ tree.find? spot.place ≠ some .directory ∧
      grown = tree.insert spot.place (.file (old ++ content)) := by
  unfold append at h
  cases hopen : openToWrite tree path with
  | error fault => simp [hopen, Except.map] at h
  | ok opened =>
      obtain ⟨place, old⟩ := opened
      obtain ⟨spot, hlocate, rfl, hplace⟩ := openToWrite_ok hopen
      simp only [hopen, Except.map, Except.ok.injEq] at h
      exact ⟨spot, old, hlocate, hplace, h.symm⟩

theorem stat_ok {entry : Entry} (h : stat tree path = .ok (place, entry)) :
    ∃ spot, locate tree path = .ok spot ∧ spot.place = place ∧ tree.find? place = some entry := by
  unfold stat at h
  split at h
  · cases h
  · rename_i here hlocate
    cases h
    refine ⟨_, hlocate, rfl, ?_⟩
    rcases locate_ok hlocate with ⟨_, hspot, hwalk⟩ | ⟨_, _, _, _, hspot, -⟩
    · cases hspot
      exact (Tree.Open.root.walk hwalk).directory
    · cases hspot
  · rename_i parent name slash hlocate
    split at h
    · cases h
    split at h
    · cases h
    · rename_i hfound
      cases h
      exact ⟨_, hlocate, rfl, hfound⟩
    · rename_i found hfound
      split at h
      · cases h
      · cases h
        exact ⟨_, hlocate, rfl, hfound⟩

/-- The components of a path to a directory can be walked. -/
theorem walk_of_stat (h : stat tree path = .ok (place, .directory)) :
    walk tree [] (components path) = .ok place := by
  obtain ⟨spot, hlocate, rfl, hfound⟩ := stat_ok h
  rcases locate_ok hlocate with
    ⟨_, rfl, hwalk⟩ | ⟨parent, name, slash, front, rfl, hname, hpath, hwalk⟩
  · exact hwalk
  · have hshort : isTooLong name = false := by
      unfold stat at h
      rw [hlocate] at h
      simp only at h
      split at h
      · cases h
      · simp_all
    rw [hpath, walk_append_of_ok hwalk]
    simp only [walk, if_neg hname.1, if_neg hname.2, hshort]
    rw [Spot.place] at hfound
    simp [hfound, Spot.place]

theorem remove_ok (h : remove tree path = .ok grown) :
    ∃ spot content, locate tree path = .ok spot ∧
      tree.find? spot.place = some (.file content) ∧ grown = tree.erase spot.place := by
  unfold remove at h
  split at h
  · cases h
  · cases h
  · rename_i place content hstat
    obtain ⟨spot, hlocate, rfl, hfound⟩ := stat_ok hstat
    cases h
    exact ⟨spot, content, hlocate, hfound, rfl⟩

theorem rename_ok {source target : String} (h : rename tree source target = .ok grown) :
    ∃ start spot content, locate tree source = .ok start ∧ locate tree target = .ok spot ∧
      tree.find? start.place = some (.file content) ∧
      tree.find? spot.place ≠ some .directory ∧
      grown = (tree.erase start.place).insert spot.place (.file content) := by
  unfold rename at h
  split at h
  · cases h
  · cases h
  · cases h
  · cases h
  · rename_i place content parent name slash hstat hlocate
    obtain ⟨start, hstart, rfl, hfound⟩ := stat_ok hstat
    split at h
    · cases h
    split at h
    · cases h
    split at h
    · cases h
    · rename_i hdirectory
      cases h
      refine ⟨start, _, content, hstart, hlocate, hfound, ?_, rfl⟩
      simpa [Tree.isDirectory, Spot.place] using hdirectory

/-! ### Operations below a directory

Here `base` are the components of a path to a directory `root`, and the paths that are used
continue it with `names`. -/

theorem locate_place (hroot : walk tree [] base = .ok root)
    (hpath : components path = base ++ names) (hnames : ∀ name ∈ names, LeadsDown name)
    (h : locate tree path = .ok spot) : spot.place = root ++ names := by
  rcases locate_ok h with
    ⟨place, rfl, hwalk⟩ | ⟨parent, name, slash, front, rfl, hname, hlast, hwalk⟩
  · rw [hpath, walk_append_of_ok hroot] at hwalk
    exact walk_down hnames hwalk
  · rcases List.eq_nil_or_concat names with rfl | ⟨around, last, rfl⟩
    · -- the path is that of the directory itself
      rw [List.append_nil] at hpath ⊢
      rw [← hpath, hlast, walk_append_of_ok hwalk] at hroot
      obtain ⟨-, -, hroot⟩ := walk_cons_ok hname hroot
      cases hroot
      rfl
    · -- the last name is that of the path, and the names before it lead down from the directory
      rw [List.concat_eq_append, ← List.append_assoc] at hpath
      obtain ⟨hfront, hsingle⟩ := List.append_inj' (hpath.symm.trans hlast) rfl
      obtain rfl : last = name := (List.cons.inj hsingle).1
      rw [← hfront, walk_append_of_ok hroot] at hwalk
      have haround : ∀ name ∈ around, LeadsDown name := by
        intro n hn
        rw [List.concat_eq_append] at hnames
        exact hnames n (List.mem_append_left _ hn)
      have hparent := walk_down haround hwalk
      rw [Spot.place, hparent, List.concat_eq_append, List.append_assoc]

section

variable (hroot : walk tree [] base = .ok root) (hpath : components path = base ++ names)
  (hnames : ∀ name ∈ names, LeadsDown name)

include hroot hpath hnames

theorem change_makeDirectory (h : makeDirectory tree path = .ok grown) :
    tree.Change (fun _ => False) (· = root ++ names) grown := by
  obtain ⟨spot, hlocate, hnone, rfl⟩ := makeDirectory_ok h
  rw [locate_place hroot hpath hnames hlocate] at hnone ⊢
  exact Tree.change_insert_directory hnone

theorem change_write (h : write tree path content = .ok grown) :
    tree.Change (· = root ++ names) (fun _ => False) grown := by
  obtain ⟨spot, hlocate, hplace, rfl⟩ := write_ok h
  rw [locate_place hroot hpath hnames hlocate] at hplace ⊢
  exact Tree.change_insert_file hplace content

theorem change_append (h : append tree path content = .ok grown) :
    tree.Change (· = root ++ names) (fun _ => False) grown := by
  obtain ⟨spot, old, hlocate, hplace, rfl⟩ := append_ok h
  rw [locate_place hroot hpath hnames hlocate] at hplace ⊢
  exact Tree.change_insert_file hplace _

theorem change_remove (h : remove tree path = .ok grown) :
    tree.Change (· = root ++ names) (fun _ => False) grown := by
  obtain ⟨spot, content, hlocate, hfound, rfl⟩ := remove_ok h
  rw [locate_place hroot hpath hnames hlocate] at hfound ⊢
  exact Tree.change_erase (by simp [hfound])

theorem change_rename {source : String} {others : List String}
    (hsource : components source = base ++ others) (hothers : ∀ name ∈ others, LeadsDown name)
    (h : rename tree source path = .ok grown) :
    tree.Change (fun place => place = root ++ others ∨ place = root ++ names) (fun _ => False)
      grown := by
  obtain ⟨start, spot, content, hstart, hlocate, hfound, hplace, rfl⟩ := rename_ok h
  rw [locate_place hroot hsource hothers hstart] at hfound ⊢
  rw [locate_place hroot hpath hnames hlocate] at hplace ⊢
  have hfile : tree.find? (root ++ others) ≠ some .directory := by simp [hfound]
  have herased := Tree.change_erase hfile
  refine (herased.mono (fun _ => .inl) fun _ => id).trans ?_
  refine (Tree.change_insert_file ?_ content).mono (fun _ => .inr) fun _ => id
  -- a place that is no directory is none either when a file is gone from the tree
  rw [Tree.find?_erase_of_ne (Tree.ne_root_of_find? hfile)]
  split
  · simp
  · exact hplace

end

end ClusterBundle.File
