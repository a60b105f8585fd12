import ClusterBundle.Proofs.File.Access

/-!
Trees in which everything is in a directory.

Nothing about the entries of a tree says that the place around a file is a directory. It is so in a
tree that comes from a file system, and every access keeps it so: what is new comes into a directory
that was walked to, and what goes is a file, which has nothing in it.
-/

namespace ClusterBundle.File

variable {tree grown : Tree} {place parent target : Place} {names : List String} {name : String}
  {entry : Entry}

/-- Everything is in a directory. -/
def Tree.Closed (tree : Tree) : Prop :=
  ∀ parent name, tree.find? (parent ++ [name]) ≠ none → tree.find? parent = some .directory

namespace Tree.Closed

theorem empty : Tree.empty.Closed := by
  intro parent name h
  exact absurd (by simp [Tree.find?, Tree.empty]) h

/-- What has something below it is a directory. -/
theorem above (h : tree.Closed) (hfound : tree.find? (place ++ names) ≠ none)
    (hnames : names ≠ []) : tree.find? place = some .directory := by
  induction names generalizing place with
  | nil => exact absurd rfl hnames
  | cons first rest ih =>
      rw [List.append_cons] at hfound
      cases rest with
      | nil => exact h place first (by rwa [List.append_nil] at hfound)
      | cons next rest => exact h place first (by simp [ih hfound (List.cons_ne_nil _ _)])

/-- Nothing is below what is not there. -/
theorem below (h : tree.Closed) (hnone : tree.find? place = none) :
    tree.find? (place ++ names) = none := by
  by_cases hnames : names = []
  · rw [hnames, List.append_nil, hnone]
  · refine Option.eq_none_iff_forall_ne_some.2 fun entry hfound => ?_
    rw [h.above (by rw [hfound]; simp) hnames] at hnone
    cases hnone

/-- What comes into a directory, in the place of nothing or of a file. -/
theorem insert (h : tree.Closed) (hparent : tree.find? parent = some .directory)
    (hfree : tree.find? (parent ++ [name]) ≠ some .directory) (entry : Entry) :
    (tree.insert (parent ++ [name]) entry).Closed := by
  have htarget : parent ++ [name] ≠ [] := by simp
  have hparentKept : (tree.insert (parent ++ [name]) entry).find? parent = some .directory := by
    rw [find?_insert_of_ne htarget, if_neg (by simp), hparent]
  intro around last hfound
  by_cases hsame : around ++ [last] = parent ++ [name]
  · rw [(List.append_inj' hsame rfl).1, hparentKept]
  · rw [find?_insert_of_ne htarget, if_neg hsame] at hfound
    have haround := h around last hfound
    rw [find?_insert_of_ne htarget, if_neg, haround]
    rintro rfl
    exact hfree haround

theorem erase (h : tree.Closed) (hfile : tree.find? target ≠ some .directory) :
    (tree.erase target).Closed := by
  have htarget : target ≠ [] := ne_root_of_find? hfile
  intro around last hfound
  rw [find?_erase_of_ne htarget] at hfound
  split at hfound
  · exact absurd rfl hfound
  · have haround := h around last hfound
    rw [find?_erase_of_ne htarget, if_neg, haround]
    rintro rfl
    exact hfile haround

end Tree.Closed

/-- A path that does not lead to a directory leads to a name in one. -/
theorem locate_parent {path : String} {spot : Spot} (h : locate tree path = .ok spot)
    (hfree : tree.find? spot.place ≠ some .directory) :
    ∃ parent name, spot.place = parent ++ [name] ∧ tree.find? parent = some .directory := by
  rcases locate_ok h with ⟨place, rfl, hwalk⟩ | ⟨parent, name, slash, front, rfl, -, -, hwalk⟩
  · exact absurd (Tree.Open.root.walk hwalk).directory hfree
  · exact ⟨parent, name, rfl, (Tree.Open.root.walk hwalk).directory⟩

namespace Access

theorem closed_outcome {result : Except IoFault Tree} (htree : tree.Closed)
    (h : ∀ grown, result = .ok grown → grown.Closed) : (outcome tree result).Closed := by
  cases result with
  | ok grown => exact h grown rfl
  | error fault => exact htree

/-- Whatever comes to where a path leads, the tree stays closed. -/
theorem closed_insert {path : String} {spot : Spot} (htree : tree.Closed)
    (hlocate : locate tree path = .ok spot) (hfree : tree.find? spot.place ≠ some .directory)
    (entry : Entry) : (tree.insert spot.place entry).Closed := by
  obtain ⟨parent, name, hplace, hparent⟩ := locate_parent hlocate hfree
  rw [hplace] at hfree ⊢
  exact htree.insert hparent hfree entry

theorem closed_perform (htree : tree.Closed) (access : Access) : (access.perform tree).Closed := by
  cases access with
  | makeDirectory path =>
      refine closed_outcome htree fun grown hok => ?_
      obtain ⟨spot, hlocate, hnone, rfl⟩ := makeDirectory_ok hok
      exact closed_insert htree hlocate (by simp [hnone]) _
  | write path content =>
      refine closed_outcome htree fun grown hok => ?_
      obtain ⟨spot, hlocate, hfree, rfl⟩ := write_ok hok
      exact closed_insert htree hlocate hfree _
  | append path content =>
      refine closed_outcome htree fun grown hok => ?_
      obtain ⟨spot, old, hlocate, hfree, rfl⟩ := append_ok hok
      exact closed_insert htree hlocate hfree _
  | remove path =>
      refine closed_outcome htree fun grown hok => ?_
      obtain ⟨spot, content, -, hfound, rfl⟩ := remove_ok hok
      exact htree.erase (by simp [hfound])
  | rename source target =>
      refine closed_outcome htree fun grown hok => ?_
      obtain ⟨start, spot, content, -, hlocate, hfound, hfree, rfl⟩ := rename_ok hok
      have hfile : tree.find? start.place ≠ some .directory := by simp [hfound]
      have hstart : start.place ≠ [] := Tree.ne_root_of_find? hfile
      -- the directory around the target is no file, so it is still there
      obtain ⟨parent, name, hplace, hparent⟩ := locate_parent hlocate hfree
      rw [hplace] at hfree ⊢
      refine (htree.erase hfile).insert ?_ ?_ _
      · rw [Tree.find?_erase_of_ne hstart, if_neg, hparent]
        rintro rfl
        exact hfile hparent
      · rw [Tree.find?_erase_of_ne hstart]
        split
        · simp
        · exact hfree
  | look path => exact htree

theorem closed_performAll (htree : tree.Closed) (accesses : List Access) :
    (performAll tree accesses).Closed := by
  induction accesses generalizing tree with
  | nil => exact htree
  | cons access rest ih => exact ih (closed_perform htree access)

end Access

end ClusterBundle.File
