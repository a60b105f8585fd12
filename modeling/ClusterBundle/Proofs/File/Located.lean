import ClusterBundle.Proofs.File.Change

/-!
Operations on paths that are known to lead somewhere.

If the directory is there that a path ends in, then whether an operation succeeds is up to the text
of the path, the length of its last name and what is found there. The text alone can make a path
unusable, in the same way in every tree.
-/

namespace ClusterBundle.File

open ClusterBundle.Path (components steps EndsPlain endsWithSlash)

variable {tree : Tree} {path name : String} {front : List String} {parent place : Place}
  {fault : IoFault} {content : Bytes}

theorem isDirectory_of_fault (h : textFault? path = some fault) :
    isDirectory tree path = false := by
  unfold isDirectory stat
  rw [locate_of_fault h]

theorem makeDirectory_of_fault (h : textFault? path = some fault) :
    makeDirectory tree path = .error fault := by
  unfold makeDirectory
  rw [locate_of_fault h]

/-! ### Paths to directories -/

/-- What a path to a directory is located as. -/
theorem locate_of_walked (hfault : textFault? path = none)
    (hwalk : walk tree [] (components path) = .ok place) :
    locate tree path = .ok (.directory place) ∨
      ∃ parent name slash, locate tree path = .ok (.name parent name slash) ∧
        isTooLong name = false ∧ tree.find? (parent ++ [name]) = some .directory := by
  have hsteps := hwalk
  rw [← walk_steps] at hsteps
  rcases hlocate : locate tree path with fault | spot
  · -- the walk up to the last step is a part of one that succeeds
    rw [locate_of_no_fault hfault, spotOf] at hlocate
    split at hlocate
    · cases hlocate
    · rename_i last hlast
      obtain ⟨front, hfront⟩ := List.getLast?_eq_some_iff.1 hlast
      rw [hfront] at hsteps
      obtain ⟨parent, hparent, -⟩ := walk_ok_of_append hsteps
      rw [hfront, List.dropLast_concat, hparent] at hlocate
      dsimp only at hlocate
      split at hlocate
      · cases hlocate
      · split at hlocate <;> cases hlocate
  · rcases locate_ok hlocate with
      ⟨there, rfl, hthere⟩ | ⟨parent, name, slash, front, rfl, hname, hpath, hparent⟩
    · rw [hwalk] at hthere
      cases hthere
      exact .inl rfl
    · rw [hpath, walk_append_of_ok hparent] at hwalk
      obtain ⟨hshort, hfound, -⟩ := walk_cons_ok hname hwalk
      exact .inr ⟨parent, name, slash, rfl, hshort, hfound⟩

theorem stat_of_walked (hfault : textFault? path = none)
    (hwalk : walk tree [] (components path) = .ok place) :
    stat tree path = .ok (place, .directory) := by
  unfold stat
  rcases locate_of_walked hfault hwalk with
    hlocate | ⟨parent, name, slash, hlocate, hshort, hfound⟩
  · rw [hlocate]
  · have hplace : (Spot.name parent name slash).place = place ++ [] :=
      locate_place hwalk (List.append_nil _).symm (by simp) hlocate
    rw [List.append_nil] at hplace
    simp only [hlocate, hshort, hfound, Bool.false_eq_true, if_false]
    rw [← hplace, Spot.place]

theorem isDirectory_of_walked (hfault : textFault? path = none)
    (hwalk : walk tree [] (components path) = .ok place) : isDirectory tree path = true := by
  rw [isDirectory, stat_of_walked hfault hwalk]

theorem makeDirectory_of_walked (hfault : textFault? path = none)
    (hwalk : walk tree [] (components path) = .ok place) :
    makeDirectory tree path = .error .alreadyExists := by
  unfold makeDirectory
  rcases locate_of_walked hfault hwalk with
    hlocate | ⟨parent, name, slash, hlocate, hshort, hfound⟩
  · rw [hlocate]
  · simp only [hlocate, hshort, hfound, Bool.false_eq_true, if_false]

/-- To make a directory that is there does nothing. -/
theorem createAll_of_walked (hwalk : walk tree [] (components path) = .ok place) :
    (createAll tree path).2 = tree ∧
      ((createAll tree path).1 = .ok () ↔ path = "" ∨ textFault? path = none) := by
  unfold createAll
  by_cases hempty : path = ""
  · rw [if_pos hempty]
    exact ⟨rfl, fun _ => .inl hempty, fun _ => rfl⟩
  · rw [if_neg hempty, createNested]
    cases hfault : textFault? path with
    | none =>
        have hexists : IoFault.alreadyExists ≠ .notFound := by decide
        simp only [makeDirectory_of_walked hfault hwalk, isDirectory_of_walked hfault hwalk,
          if_neg hexists, if_true,
          or_true, and_self]
    | some fault =>
        have hfound : fault ≠ .notFound := fun h => textFault?_ne_notFound hempty (h ▸ hfault)
        simp only [makeDirectory_of_fault hfault, isDirectory_of_fault hfault, if_neg hfound,
          Bool.false_eq_true, if_false, hempty, false_or, true_and]
        simp

/-! ### Paths to a name in a directory -/

section

variable (hplain : EndsPlain path) (hpath : components path = front ++ [name])
  (hname : LeadsDown name) (hwalk : walk tree [] front = .ok parent)

include hplain hpath hname hwalk

theorem locate_of_plain (hfault : textFault? path = none) :
    locate tree path = .ok (.name parent name (endsWithSlash path)) := by
  obtain ⟨behind, hsteps, hfilter⟩ := hplain.steps_eq hpath
  have hparent : walk tree [] behind = .ok parent := by rw [← walk_filter, hfilter, hwalk]
  rw [locate_of_no_fault hfault, spotOf, hsteps, List.getLast?_concat, List.dropLast_concat]
  simp only [hparent, if_neg hname.1, if_neg hname.2]

/-- To make a missing directory in one that is there. -/
theorem createAll_of_missing (hshort : isTooLong name = false)
    (hmissing : tree.find? (parent ++ [name]) = none) :
    ((createAll tree path).1 = .ok () ↔ textFault? path = none) ∧
      ((createAll tree path).1 = .ok () →
        (createAll tree path).2 = tree.insert (parent ++ [name]) .directory) := by
  have hempty : path ≠ "" := Path.ne_empty_of_components hpath
  unfold createAll
  rw [if_neg hempty, createNested]
  cases hfault : textFault? path with
  | none =>
      have hmade : makeDirectory tree path =
          .ok (tree.insert (parent ++ [name]) .directory) := by
        unfold makeDirectory
        simp only [locate_of_plain hplain hpath hname hwalk hfault, hshort, hmissing,
          Bool.false_eq_true, if_false]
      simp [hmade]
  | some fault =>
      -- a path that is not empty is not missed for its text, so nothing around it is made
      have hfound : fault ≠ .notFound := fun h => textFault?_ne_notFound hempty (h ▸ hfault)
      simp only [makeDirectory_of_fault hfault, isDirectory_of_fault hfault, if_neg hfound,
        Bool.false_eq_true, if_false]
      simp

/-- A file can be written where no directory is, if its path and name can be used. -/
theorem write_of_plain (hslash : endsWithSlash path = false)
    (hfree : tree.find? (parent ++ [name]) ≠ some .directory) (content : Bytes) :
    write tree path content =
      match textFault? path with
      | some fault => .error fault
      | none =>
          if isTooLong name then .error .nameTooLong
          else .ok (tree.insert (parent ++ [name]) (.file content)) := by
  unfold write openToWrite
  cases hfault : textFault? path with
  | some fault =>
      rw [locate_of_fault hfault]
      rfl
  | none =>
      simp only [locate_of_plain hplain hpath hname hwalk hfault, hslash, Bool.false_eq_true,
        if_false]
      by_cases hlong : isTooLong name = true
      · simp only [hlong, if_true]
        rfl
      · simp only [hlong, Bool.false_eq_true, if_false]
        cases hfound : tree.find? (parent ++ [name]) with
        | none => rfl
        | some entry =>
            cases entry with
            | directory => exact absurd hfound hfree
            | file old => rfl

theorem stat_of_file (hfault : textFault? path = none) (hslash : endsWithSlash path = false)
    (hshort : isTooLong name = false)
    (hfound : tree.find? (parent ++ [name]) = some (.file content)) :
    stat tree path = .ok (parent ++ [name], .file content) := by
  unfold stat
  simp only [locate_of_plain hplain hpath hname hwalk hfault, hshort, hfound, hslash,
    Bool.false_eq_true, if_false]

/-- A file can be moved to where no directory is, if the path and the name there can be used. -/
theorem rename_of_plain {source : String} (hsource : stat tree source = .ok (place, .file content))
    (hfree : tree.find? (parent ++ [name]) ≠ some .directory) :
    (∃ moved, rename tree source path = .ok moved) ↔
      textFault? path = none ∧ isTooLong name = false ∧ endsWithSlash path = false := by
  have hdirectory : tree.isDirectory (parent ++ [name]) = false := by
    simpa [Tree.isDirectory] using hfree
  unfold rename
  rw [hsource]
  cases hfault : textFault? path with
  | some fault => simp [locate_of_fault hfault]
  | none =>
      simp only [locate_of_plain hplain hpath hname hwalk hfault, hdirectory, Bool.false_eq_true,
        if_false]
      cases isTooLong name <;> cases endsWithSlash path <;> simp

end

/-! ### Reading what was written -/

/-- What a path is located as stays as long as directories stay. -/
theorem locate_kept {grown : Tree} {spot : Spot}
    (hkept : ∀ place, tree.find? place = some .directory → grown.find? place = some .directory)
    (h : locate tree path = .ok spot) : locate grown path = .ok spot := by
  have hfault := textFault?_of_locate h
  rw [locate_of_no_fault hfault, spotOf] at h ⊢
  cases hlast : (steps path).getLast? with
  | none => simpa [hlast] using h
  | some last =>
      rw [hlast] at h
      dsimp only at h ⊢
      cases hwalk : walk tree [] (steps path).dropLast with
      | error fault => simp [hwalk] at h
      | ok parent =>
          rw [hwalk] at h
          rw [walk_kept hkept hwalk]
          exact h

theorem stat_of_located {grown : Tree}
    (hkept : ∀ place, tree.find? place = some .directory → grown.find? place = some .directory)
    (hlocate : locate tree path = .ok (.name parent name false)) (hshort : isTooLong name = false)
    (hfound : grown.find? (parent ++ [name]) = some (.file content)) :
    stat grown path = .ok (parent ++ [name], .file content) := by
  unfold stat
  simp only [locate_kept hkept hlocate, hshort, hfound, Bool.false_eq_true, if_false]

/-- What was written to a path is found there. -/
theorem stat_of_write {grown : Tree} (h : write tree path content = .ok grown) :
    ∃ place, stat grown path = .ok (place, .file content) := by
  obtain ⟨spot, hlocate, hfree, rfl⟩ := write_ok h
  have hchange := Tree.change_insert_file hfree content
  have hthere : (tree.insert spot.place (.file content)).find? spot.place =
      some (.file content) := by
    rw [Tree.find?_insert_of_ne (Tree.ne_root_of_find? hfree), if_pos rfl]
  unfold write openToWrite at h
  rw [hlocate] at h
  cases spot with
  | directory place => cases h
  | name parent name slash =>
      cases slash with
      | true => cases h
      | false =>
          cases hlong : isTooLong name with
          | true => simp [hlong, Except.map] at h
          | false => exact ⟨_, stat_of_located hchange.kept hlocate hlong hthere⟩

/-- A file that was moved to a path is at a name there, and directories stay. -/
theorem located_of_rename {source : String} {moved : Tree}
    (hsource : stat tree source = .ok (place, .file content))
    (h : rename tree source path = .ok moved) :
    ∃ parent name, locate tree path = .ok (.name parent name false) ∧ isTooLong name = false ∧
      moved.find? (parent ++ [name]) = some (.file content) ∧
      ∀ place, tree.find? place = some .directory → moved.find? place = some .directory := by
  obtain ⟨start, spot, moving, hstart, hlocate, hfound, hfree, rfl⟩ := rename_ok h
  obtain ⟨origin, horigin, rfl, hcontent⟩ := stat_ok hsource
  rw [hstart] at horigin
  obtain rfl := Except.ok.inj horigin
  rw [hcontent] at hfound
  obtain rfl : content = moving := by simpa using hfound
  have hfile : tree.find? start.place ≠ some .directory := by simp [hcontent]
  have hcleared : (tree.erase start.place).find? spot.place ≠ some .directory := by
    rw [Tree.find?_erase_of_ne (Tree.ne_root_of_find? hfile)]
    split
    · simp
    · exact hfree
  have hkept := fun place hplace => (Tree.change_insert_file hcleared content).kept place
    ((Tree.change_erase hfile).kept place hplace)
  have hthere : ((tree.erase start.place).insert spot.place (.file content)).find? spot.place =
      some (.file content) := by
    rw [Tree.find?_insert_of_ne (Tree.ne_root_of_find? hcleared), if_pos rfl]
  unfold rename at h
  rw [hsource, hlocate] at h
  cases spot with
  | directory place => cases h
  | name parent name slash =>
      cases hlong : isTooLong name with
      | true => simp [hlong] at h
      | false =>
          cases slash with
          | true => simp [hlong] at h
          | false => exact ⟨parent, name, hlocate, hlong, hthere, hkept⟩

/-- A file that was moved to a path can be read there. -/
theorem read_of_rename {source : String} {moved : Tree}
    (hsource : stat tree source = .ok (place, .file content))
    (h : rename tree source path = .ok moved) : read moved path = .ok content := by
  -- no directory goes away, so the target is located as before
  obtain ⟨parent, name, hlocate, hshort, hthere, hkept⟩ := located_of_rename hsource h
  unfold read
  rw [stat_of_located hkept hlocate hshort hthere]

end ClusterBundle.File
