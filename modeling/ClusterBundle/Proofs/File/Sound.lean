import ClusterBundle.Proofs.File.Closed

/-!
Trees as a file system has them.

The entries of a tree can stand under any names, but a file system takes no name that is too long or
has a NUL character in it, and it has everything in a directory. Such a tree stays one whatever is
done to it, since a name comes into it by way of a path. What is found in it can be reached, so a
path to it can only be refused for being too long.
-/

namespace ClusterBundle

open ClusterBundle.Path (components)

namespace File

/-- A tree as a file system has it: everything is in a directory, and the names are ones that the
system takes. -/
structure Tree.Sound (tree : Tree) : Prop where
  closed : tree.Closed
  short : ∀ place, tree.find? place ≠ none → ∀ name ∈ place, isTooLong name = false
  clean : ∀ place, tree.find? place ≠ none → ∀ name ∈ place, '\x00' ∉ name.toList

variable {tree : Tree} {place here parent : Place} {path name : String}
  {front names : List String} {fault : IoFault} {content : Bytes}

namespace Tree.Sound

theorem empty : Tree.empty.Sound := by
  have hroot : ∀ place, Tree.empty.find? place ≠ none → place = [] := by
    intro place hplace
    cases place with
    | nil => rfl
    | cons name rest => exact absurd (by simp [Tree.find?, Tree.empty]) hplace
  refine ⟨.empty, fun place hplace => ?_, fun place hplace => ?_⟩
  all_goals
    rw [hroot place hplace]
    simp

theorem insert (h : tree.Sound) (hparent : tree.find? parent = some .directory)
    (hfree : tree.find? (parent ++ [name]) ≠ some .directory) (hshort : isTooLong name = false)
    (hclean : '\x00' ∉ name.toList) (entry : Entry) :
    (tree.insert (parent ++ [name]) entry).Sound := by
  have hnames : ∀ P : String → Prop,
      (∀ place, tree.find? place ≠ none → ∀ name ∈ place, P name) → P name →
      ∀ place, (tree.insert (parent ++ [name]) entry).find? place ≠ none →
        ∀ name ∈ place, P name := by
    intro P hall hlast place hplace other hother
    rw [Tree.find?_insert_of_ne (by simp)] at hplace
    split at hplace
    · rename_i heq
      rw [heq] at hother
      rcases List.mem_append.1 hother with hother | hother
      · exact hall parent (by simp [hparent]) other hother
      · rwa [List.mem_singleton.1 hother]
    · exact hall place hplace other hother
  exact ⟨h.closed.insert hparent hfree entry, hnames _ h.short hshort, hnames _ h.clean hclean⟩

theorem erase {target : Place} (h : tree.Sound) (hfile : tree.find? target ≠ some .directory) :
    (tree.erase target).Sound := by
  have hnames : ∀ P : String → Prop,
      (∀ place, tree.find? place ≠ none → ∀ name ∈ place, P name) →
      ∀ place, (tree.erase target).find? place ≠ none → ∀ name ∈ place, P name := by
    intro P hall place hplace
    rw [Tree.find?_erase_of_ne (Tree.ne_root_of_find? hfile)] at hplace
    split at hplace
    · exact absurd rfl hplace
    · exact hall place hplace
  exact ⟨h.closed.erase hfile, hnames _ h.short, hnames _ h.clean⟩

/-- What can be walked along are names of the tree, and steps that stay or go up. -/
theorem clean_of_walk (h : tree.Sound) (hwalk : walk tree here names = .ok place) :
    ∀ name ∈ names, '\x00' ∉ name.toList := by
  induction names generalizing here with
  | nil => simp
  | cons piece rest ih =>
      intro name hname
      by_cases hidle : piece = "."
      · rw [walk, if_pos hidle] at hwalk
        rcases List.mem_cons.1 hname with rfl | hname
        · rw [hidle]
          decide
        · exact ih hwalk name hname
      by_cases hup : piece = ".."
      · rw [walk, if_neg hidle, if_pos hup] at hwalk
        rcases List.mem_cons.1 hname with rfl | hname
        · rw [hup]
          decide
        · exact ih hwalk name hname
      · obtain ⟨-, hfound, hrest⟩ := walk_cons_ok ⟨hidle, hup⟩ hwalk
        rcases List.mem_cons.1 hname with rfl | hname
        · exact h.clean (here ++ [name]) (by simp [hfound]) name (by simp)
        · exact ih hrest name hname

/-- A directory that is there can be walked to. -/
theorem walk_of_found (h : tree.Sound) (hdown : ∀ name ∈ names, LeadsDown name)
    (hfound : tree.find? (here ++ names) = some .directory) :
    walk tree here names = .ok (here ++ names) := by
  induction names generalizing here with
  | nil => simp [walk]
  | cons name rest ih =>
      obtain ⟨hname, hrest⟩ := List.forall_mem_cons.1 hdown
      have hshort := h.short (here ++ name :: rest) (by simp [hfound]) name (by simp)
      rw [List.append_cons] at hfound ⊢
      have hthere : tree.find? (here ++ [name]) = some .directory := by
        by_cases hnone : rest = []
        · simpa [hnone] using hfound
        · exact h.closed.above (by rw [hfound]; simp) hnone
      simp only [walk, if_neg hname.1, if_neg hname.2, hshort, hthere, Bool.false_eq_true, if_false]
      exact ih hrest hfound

end Tree.Sound

/-- A path of clean names is refused for its length, if it is for its text. -/
theorem tooLong_of_clean (hclean : ∀ name ∈ components path, '\x00' ∉ name.toList)
    (hempty : path ≠ "") (h : textFault? path = some fault) :
    pathLimit ≤ (Utf8.encode path).length := by
  have hnul : path.toList.contains '\x00' = false := by
    rw [Bool.eq_false_iff]
    intro hmem
    obtain ⟨name, hname, hc⟩ :=
      Path.exists_mem_components (List.contains_iff_mem.1 hmem) (by decide) (by decide)
    exact hclean name hname hc
  unfold textFault? at h
  rw [hnul, if_neg (by simp), if_neg hempty] at h
  split at h
  · assumption
  · cases h

theorem length_lt_of_textFault? (h : textFault? path = none) :
    (Utf8.encode path).length < pathLimit := by
  unfold textFault? at h
  split at h
  · cases h
  split at h
  · cases h
  split at h
  · cases h
  · omega

/-! ### What is done to such a tree -/

section

variable {source : String} {slash : Bool} {grown : Tree}

theorem clean_of_textFault? (h : textFault? path = none) (hname : name ∈ components path) :
    '\x00' ∉ name.toList := by
  intro hmem
  unfold textFault? at h
  rw [if_pos (List.contains_iff_mem.2 (Path.mem_of_mem_components hname hmem))] at h
  cases h

/-- A name that a path leads to is one that the system takes, but for its length. -/
theorem clean_of_locate (h : locate tree path = .ok (.name parent name slash)) :
    '\x00' ∉ name.toList := by
  have hname : name ∈ components path := by
    rcases locate_ok h with ⟨place, heq, -⟩ | ⟨_, last, _, front, heq, -, hpath, -⟩
    · cases heq
    · cases heq
      simp [hpath]
  exact clean_of_textFault? (textFault?_of_locate h) hname

theorem Tree.Sound.insert_located (h : tree.Sound)
    (hlocate : locate tree path = .ok (.name parent name slash))
    (hfree : tree.find? (parent ++ [name]) ≠ some .directory) (hshort : ¬ isTooLong name = true)
    (entry : Entry) : (tree.insert (parent ++ [name]) entry).Sound := by
  obtain ⟨around, last, hplace, hparent⟩ := locate_parent hlocate hfree
  obtain rfl := (List.append_inj' hplace rfl).1
  exact h.insert hparent hfree (by simpa using hshort) (clean_of_locate hlocate) entry

theorem sound_makeDirectory (h : tree.Sound) (hok : makeDirectory tree path = .ok grown) :
    grown.Sound := by
  unfold makeDirectory at hok
  split at hok
  · cases hok
  · cases hok
  · rename_i hlocate
    split at hok
    · cases hok
    · rename_i hshort
      split at hok
      · cases hok
      · rename_i hnone
        cases hok
        exact h.insert_located hlocate (by simp [hnone]) hshort _

theorem sound_openToWrite {old : Bytes} (h : tree.Sound)
    (hok : openToWrite tree path = .ok (place, old)) (entry : Entry) :
    (tree.insert place entry).Sound := by
  unfold openToWrite at hok
  split at hok
  · cases hok
  · cases hok
  · rename_i hlocate
    split at hok
    · cases hok
    split at hok
    · cases hok
    · rename_i hshort
      split at hok
      · cases hok
      · rename_i hfound
        cases hok
        exact h.insert_located hlocate (by simp [hfound]) hshort entry
      · rename_i hnone
        cases hok
        exact h.insert_located hlocate (by simp [hnone]) hshort entry

/-- Whatever is made of a file that was opened to be written to. -/
theorem sound_of_opened {entry : Place × Bytes → Entry} (h : tree.Sound)
    (hok : ((openToWrite tree path).map fun opened => tree.insert opened.1 (entry opened)) =
      .ok grown) : grown.Sound := by
  cases hopen : openToWrite tree path with
  | error fault => simp [hopen, Except.map] at hok
  | ok opened =>
      simp only [hopen, Except.map, Except.ok.injEq] at hok
      exact hok ▸ sound_openToWrite h hopen _

theorem sound_write (h : tree.Sound) (hok : write tree path content = .ok grown) :
    grown.Sound :=
  @sound_of_opened _ _ _ (fun _ => .file content) h hok

theorem sound_append (h : tree.Sound) (hok : append tree path content = .ok grown) :
    grown.Sound :=
  @sound_of_opened _ _ _ (fun opened => .file (opened.2 ++ content)) h hok

theorem sound_remove (h : tree.Sound) (hok : remove tree path = .ok grown) : grown.Sound := by
  obtain ⟨spot, content, -, hfound, rfl⟩ := remove_ok hok
  exact h.erase (by simp [hfound])

theorem sound_rename (h : tree.Sound) (hok : rename tree source path = .ok grown) :
    grown.Sound := by
  unfold rename at hok
  split at hok
  · cases hok
  · cases hok
  · cases hok
  · cases hok
  · rename_i place content parent name slash hstat hlocate
    obtain ⟨start, -, rfl, hfound⟩ := stat_ok hstat
    have hfile : tree.find? start.place ≠ some .directory := by simp [hfound]
    split at hok
    · cases hok
    rename_i hshort
    split at hok
    · cases hok
    split at hok
    · cases hok
    rename_i hfree
    cases hok
    -- the directory around the target is no file, so it is still there
    have hdirectory : tree.find? (parent ++ [name]) ≠ some .directory := by
      simpa [Tree.isDirectory] using hfree
    obtain ⟨around, last, hplace, hparent⟩ := locate_parent hlocate hdirectory
    obtain rfl := (List.append_inj' hplace rfl).1
    have hstart : start.place ≠ [] := Tree.ne_root_of_find? hfile
    refine (h.erase hfile).insert ?_ ?_ (by simpa using hshort) (clean_of_locate hlocate) _
    · rw [Tree.find?_erase_of_ne hstart, if_neg, hparent]
      rintro rfl
      exact hfile hparent
    · rw [Tree.find?_erase_of_ne hstart]
      split
      · simp
      · exact hdirectory

end

namespace Access

theorem sound_outcome {result : Except IoFault Tree} (htree : tree.Sound)
    (h : ∀ grown, result = .ok grown → grown.Sound) : (outcome tree result).Sound := by
  cases result with
  | ok grown => exact h grown rfl
  | error fault => exact htree

theorem sound_perform (htree : tree.Sound) (access : Access) : (access.perform tree).Sound := by
  cases access with
  | makeDirectory path => exact sound_outcome htree fun _ => sound_makeDirectory htree
  | write path content => exact sound_outcome htree fun _ => sound_write htree
  | append path content => exact sound_outcome htree fun _ => sound_append htree
  | remove path => exact sound_outcome htree fun _ => sound_remove htree
  | rename source target => exact sound_outcome htree fun _ => sound_rename htree
  | look path => exact htree

/-- A tree of a file system stays one. -/
theorem sound_performAll (htree : tree.Sound) (accesses : List Access) :
    (performAll tree accesses).Sound := by
  induction accesses generalizing tree with
  | nil => exact htree
  | cons access rest ih => exact ih (sound_perform htree access)

end Access

end File

end ClusterBundle
