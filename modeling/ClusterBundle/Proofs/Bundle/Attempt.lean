import ClusterBundle.Proofs.Bundle.Settle
import ClusterBundle.Proofs.File.Nested

/-!
Giving a file its content, however its path is spelled and wherever the bundle lies.

A path that ends with a slash or with a dot has a last name like any other, and a bundle accepts it,
but no file is opened by it and none is moved to it. `Opens` adds this to what can keep a file from
being opened, so that what becomes of a file can be said for every path: `replace_cases` and
`extend_toBool`.

The root of a bundle need not be there. It is enough that its path goes down from a directory that
is, because what is missing on the way is made with the directory around a file; `LiesAt` says where
the root is then.
-/

namespace ClusterBundle

open File (Place Tree walk textFault? isTooLong LeadsDown openFault?)
open File.Access (Leads placesBy)
open ClusterBundle.Path (components EndsPlain endsWithSlash steps)

namespace File

variable {tree grown : Tree} {place here parent : Place} {path name base : String}
  {front names : List String} {slash : Bool} {content : Bytes}

/-! ### Spelling -/

/-- Only a path that ends with its last name is located as a name. -/
theorem locate_name (h : locate tree path = .ok (.name parent name slash)) :
    EndsPlain path ∧ slash = endsWithSlash path := by
  rw [locate_of_no_fault (textFault?_of_locate h), spotOf] at h
  split at h
  · cases h
  · rename_i last hlast
    split at h
    · cases h
    · split at h
      · cases h
      · rename_i hidle
        split at h
        · cases h
        · cases h
          refine ⟨?_, rfl⟩
          unfold EndsPlain
          rw [hlast]
          exact fun heq => hidle (Option.some.inj heq)

theorem openToWrite_name {old : Bytes} (h : openToWrite tree path = .ok (place, old)) :
    EndsPlain path ∧ endsWithSlash path = false := by
  unfold openToWrite at h
  split at h
  · cases h
  · cases h
  · rename_i parent name slash hlocate
    obtain ⟨hplain, rfl⟩ := locate_name hlocate
    split at h
    · cases h
    · rename_i hslash
      exact ⟨hplain, by simpa using hslash⟩

theorem rename_name {source : String} (h : rename tree source path = .ok grown) :
    EndsPlain path ∧ endsWithSlash path = false := by
  unfold rename at h
  split at h
  · cases h
  · cases h
  · cases h
  · cases h
  · rename_i hlocate
    obtain ⟨hplain, rfl⟩ := locate_name hlocate
    split at h
    · cases h
    split at h
    · cases h
    · rename_i hslash
      exact ⟨hplain, by simpa using hslash⟩

/-- What is left of a tree when a file was written to a place and removed again. -/
def Tree.cleared (tree : Tree) (place : Place) (content : Bytes) : Tree :=
  (tree.insert place (.file content)).erase place

theorem Tree.find?_cleared {target : Place} (h : target ≠ []) (tree : Tree) (content : Bytes)
    (place : Place) :
    (tree.cleared target content).find? place =
      if place = target then none else tree.find? place := by
  unfold Tree.cleared
  rw [Tree.find?_erase_of_ne h]
  split
  · rfl
  · rename_i hother
    rw [Tree.find?_insert_of_ne h, if_neg hother]

/-- A file that can be read is at a name in a directory. -/
theorem read_ok (h : read tree path = .ok content) :
    ∃ front parent name, components path = front ++ [name] ∧ walk tree [] front = .ok parent ∧
      tree.find? (parent ++ [name]) = some (.file content) ∧
      ∀ after : Tree,
        (∀ place, tree.find? place = some .directory → after.find? place = some .directory) →
        after.find? (parent ++ [name]) = some (.file content) → read after path = .ok content := by
  unfold read at h
  split at h
  · cases h
  · cases h
  · rename_i place found hstat
    cases h
    unfold stat at hstat
    split at hstat
    · cases hstat
    · cases hstat
    · rename_i parent name slash hlocate
      split at hstat
      · cases hstat
      rename_i hshort
      split at hstat
      · cases hstat
      · cases hstat
      rename_i hfound
      split at hstat
      · cases hstat
      rename_i hslash
      cases hstat
      obtain rfl : slash = false := by simpa using hslash
      rcases locate_ok hlocate with ⟨_, heq, -⟩ | ⟨_, _, _, front, heq, -, hpath, hwalk⟩
      · cases heq
      · cases heq
        refine ⟨front, parent, name, hpath, hwalk, hfound, fun after hkept hthere => ?_⟩
        unfold read
        rw [stat_of_located hkept hlocate (by simpa using hshort) hthere]

/-- A file can be opened by a path that leads to a name in a directory. -/
structure Opens (tree : Tree) (path : String) (parent : Place) (name : String) : Prop where
  plain : EndsPlain path
  slash : endsWithSlash path = false
  free : openFault? tree path parent name = none

/-! ### Where a path lies -/

/-- A path goes down to a place from a directory that is there. -/
def Tree.LiesAt (tree : Tree) (path : String) (place : Place) : Prop :=
  ∃ base here names, walk tree [] (components base) = .ok here ∧ Leads base path names ∧
    place = here ++ names

/-- A path that never goes up lies where its components lead, whatever is there. -/
theorem liesAt_of_components (h : ".." ∉ components path) : tree.LiesAt path (components path) := by
  refine ⟨"", [], components path, rfl, ⟨rfl, fun name hname => ⟨?_, ?_⟩, ?_⟩, rfl⟩
  · rintro rfl
    have hidle := (Path.mem_components hname).2
    simp [Path.isIdle] at hidle
  · rintro rfl
    exact h hname
  · intro habsolute
    exact absurd habsolute (by decide)

end File

open File (Opens)

namespace Bundle

variable {bundle : Bundle} {tree grown : Tree} {root here parent : Place}
  {base full name path last : String} {around : List String} {content : Bytes}
  {result : Except IoFault Unit}

theorem leads_of_lies {names : List String} (hroot : Leads base bundle.root names)
    (haccepts : accepts path = true) :
    Leads base (Path.join bundle.root path) (names ++ components path) := by
  have hleads := @leads_join bundle.root path haccepts
  refine ⟨?_, ?_, fun h => hleads.absolute (hroot.absolute h)⟩
  · rw [hleads.components_eq, hroot.components_eq, List.append_assoc]
  · intro name hname
    rcases List.mem_append.1 hname with hname | hname
    · exact hroot.down name hname
    · exact hleads.down name hname

/-! ### The directory -/

section

variable (haccepts : accepts path = true) (act : Tree → String → Written)

include haccepts

theorem within_of_unmade {fault : IoFault}
    (h : File.createAll tree (bundle.directoryOf (Path.join bundle.root path)) =
      (.error fault, grown)) :
    bundle.within tree path act =
      (.error (.io (bundle.directoryOf (Path.join bundle.root path)) fault), grown) := by
  rw [within, resolve_of_accepts bundle haccepts]
  dsimp only
  rw [h]

theorem within_of_made
    (h : File.createAll tree (bundle.directoryOf (Path.join bundle.root path)) =
      (.ok (), grown)) :
    bundle.within tree path act = act grown (Path.join bundle.root path) := by
  rw [within, resolve_of_accepts bundle haccepts]
  dsimp only
  rw [h]

/-- Whether something succeeds that is done after the directory was made. -/
theorem within_toBool_iff {may : Tree → Prop}
    (h : ∀ grown, File.createAll tree (bundle.directoryOf (Path.join bundle.root path)) =
      (.ok (), grown) →
        ((act grown (Path.join bundle.root path)).1.toBool = true ↔ may grown)) :
    (bundle.within tree path act).1.toBool = true ↔
      ∃ grown, File.createAll tree (bundle.directoryOf (Path.join bundle.root path)) =
        (.ok (), grown) ∧ may grown := by
  rcases hmade : File.createAll tree (bundle.directoryOf (Path.join bundle.root path)) with
    ⟨_ | _, grown⟩
  · rw [within_of_unmade haccepts act hmade]
    simp [Except.toBool]
  · rw [within_of_made haccepts act hmade, h grown hmade]
    simp

end

/-- One tree comes from another by making directories that were missing on the way to a place. -/
def Furnished (tree grown : Tree) (place : Place) : Prop :=
  ∀ here, grown.find? here = tree.find? here ∨
    here <+: place ∧ tree.find? here = none ∧ grown.find? here = some .directory

section

variable (hbase : walk tree [] (components base) = .ok here)
  (hleads : Leads base full (around ++ [name]))

include hbase hleads

theorem furnished_createAll (h : File.createAll tree (bundle.directoryOf full) = (result, grown)) :
    Furnished tree grown (here ++ around) := by
  have hchange := File.Access.change_performAll
    (File.fits_createAllAccesses hbase (@leads_directoryOf bundle _ _ _ _ hleads)) hbase
  rw [File.performAll_createAllAccesses, h] at hchange
  intro place
  have hfile : ¬ placesBy here (fun _ => False) place := by
    rintro ⟨_, hfalse, -⟩
    exact hfalse
  rcases hchange.off place hfile with hsame | ⟨⟨names, hnames, rfl⟩, hnone, hmade⟩
  · exact .inl hsame
  · exact .inr ⟨List.prefix_append_right_inj here |>.2 hnames, hnone, hmade⟩

/-- A directory that was made is at its place. -/
theorem walk_directory
    (h : File.createAll tree (bundle.directoryOf full) = (.ok (), grown)) :
    walk grown [] (components base ++ around) = .ok (here ++ around) := by
  have hdirectory := @leads_directoryOf bundle _ _ _ _ hleads
  have hchange := File.Access.change_performAll
    (File.fits_createAllAccesses hbase hdirectory) hbase
  rw [File.performAll_createAllAccesses, h] at hchange
  obtain ⟨-, place, hwalk⟩ := File.walk_of_createAll h
  rw [hdirectory.components_eq] at hwalk
  have hthere := hwalk
  rw [File.walk_append_of_ok (hchange.walk hbase)] at hthere
  rw [hwalk, File.walk_down hdirectory.down hthere]

end

/-- Places below the directory are as they were. -/
theorem Furnished.below (h : Furnished tree grown root) (last : String) :
    grown.find? (root ++ [last]) = tree.find? (root ++ [last]) := by
  rcases h (root ++ [last]) with hsame | ⟨haround, -⟩
  · exact hsame
  · have hlength := haround.length_le
    rw [List.length_append, List.length_singleton] at hlength
    omega

/-! ### The file -/

section

variable (bundle) (hleads : Leads base full (around ++ [name]))
  (hwalk : walk tree [] (components base ++ around) = .ok parent)

include hleads hwalk

/-- The ways in which writing a file can go, in a directory that is there. The staging file cannot
be opened, and nothing happens; the file cannot be opened, and the staging file is gone afterwards;
or the file gets its content, in which case the staging file is gone as well. -/
theorem replace_cases (content : Bytes) :
    (∃ fault,
        openFault? tree (bundle.stagingPath full) parent (stagingName name) = some fault ∧
          bundle.replace tree full content = (.error (.io full fault), tree)) ∨
      openFault? tree (bundle.stagingPath full) parent (stagingName name) = none ∧
        ((∃ fault, ¬ Opens tree full parent name ∧ bundle.replace tree full content =
            (.error (.io full fault), tree.cleared (parent ++ [stagingName name]) content)) ∨
          Opens tree full parent name ∧ bundle.replace tree full content =
            (.ok full, (tree.cleared (parent ++ [stagingName name]) content).insert
              (parent ++ [name]) (.file content))) := by
  by_cases hspelled : EndsPlain full ∧ endsWithSlash full = false
  · rw [replace_of_leads bundle hleads hspelled.1 hspelled.2 hwalk]
    cases openFault? tree (bundle.stagingPath full) parent (stagingName name) with
    | some fault => exact .inl ⟨fault, rfl, rfl⟩
    | none =>
        refine .inr ⟨rfl, ?_⟩
        cases hfile : openFault? tree full parent name with
        | some fault =>
            refine .inl ⟨fault, fun hopens => ?_, rfl⟩
            rw [hopens.free] at hfile
            cases hfile
        | none => exact .inr ⟨⟨hspelled.1, hspelled.2, hfile⟩, rfl⟩
  · -- whatever is there, the staging file cannot be moved to such a path
    have hopens : ¬ Opens tree full parent name := fun h => hspelled ⟨h.plain, h.slash⟩
    obtain ⟨hplain, hslash⟩ := @stagingPath_plain bundle _ _ _ _ hleads
    have hstagingPath := (@leads_stagingPath bundle _ _ _ _ hleads).components_eq
    rw [← List.append_assoc] at hstagingPath
    have hname := leadsDown_stagingName name
    have hopen := File.openToWrite_of_plain hplain hstagingPath hname hwalk hslash
    unfold replace File.write
    dsimp only
    rw [hopen]
    cases hstaging : openFault? tree (bundle.stagingPath full) parent (stagingName name) with
    | some fault =>
        dsimp only [Except.map]
        rw [File.discardFile_of_openFault? hplain hstagingPath hname hwalk hstaging]
        exact .inl ⟨fault, rfl, rfl⟩
    | none =>
        obtain ⟨htext, hshort, hfree⟩ := File.free_of_openFault? hstaging
        have hplace : parent ++ [stagingName name] ≠ [] := by simp
        have hthere : (tree.insert (parent ++ [stagingName name]) (.file content)).find?
            (parent ++ [stagingName name]) = some (.file content) := by
          rw [File.Tree.find?_insert_of_ne hplace, if_pos rfl]
        have hsource := File.stat_of_file hplain hstagingPath hname
          ((File.Tree.change_insert_file hfree content).walk hwalk) htext hslash hshort hthere
        dsimp only [Except.map]
        cases hmoved : File.rename (tree.insert (parent ++ [stagingName name]) (.file content))
            (bundle.stagingPath full) full with
        | ok moved => exact absurd (File.rename_name hmoved) hspelled
        | error fault =>
            refine .inr ⟨rfl, .inl ⟨fault, hopens, ?_⟩⟩
            simp only [discardFile, File.remove, hsource, Tree.cleared]

theorem replace_toBool_iff (content : Bytes) :
    (bundle.replace tree full content).1.toBool = true ↔
      openFault? tree (bundle.stagingPath full) parent (stagingName name) = none ∧
        Opens tree full parent name := by
  rcases replace_cases bundle hleads hwalk content with
    ⟨fault, hstaging, h⟩ | ⟨hstaging, ⟨fault, hopens, h⟩ | ⟨hopens, h⟩⟩
  · simp [h, hstaging, Except.toBool]
  · simp [h, hopens, Except.toBool]
  · simp [h, hstaging, hopens, Except.toBool]

theorem extend_toBool (content : Bytes) :
    (extend tree full content).1.toBool = true ↔ Opens tree full parent name := by
  constructor
  · intro h
    have hspelled : EndsPlain full ∧ endsWithSlash full = false := by
      unfold extend File.append at h
      cases hopen : File.openToWrite tree full with
      | error fault => simp [hopen, Except.map, Except.toBool] at h
      | ok opened => exact File.openToWrite_name hopen
    refine ⟨hspelled.1, hspelled.2, ?_⟩
    rw [extend_of_leads hleads hspelled.1 hspelled.2 hwalk] at h
    cases hfile : openFault? tree full parent name with
    | none => rfl
    | some fault => simp [hfile, Except.toBool] at h
  · intro hopens
    rw [extend_of_leads hleads hopens.plain hopens.slash hwalk, hopens.free]
    rfl

end

/-- In a directory that is there, writing a file changes nothing or goes on to replace it. -/
theorem write_of_walked (haccepts : accepts path = true)
    (hleads : Leads bundle.root (Path.join bundle.root path) (around ++ [name]))
    (hwalk : walk tree [] (components bundle.root ++ around) = .ok parent) (content : Bytes) :
    (bundle.write tree path content).2 = tree ∨
      bundle.write tree path content =
        bundle.replace tree (Path.join bundle.root path) content := by
  rw [← (@leads_directoryOf bundle _ _ _ _ hleads).components_eq] at hwalk
  have hsame := (File.createAll_of_walked hwalk).1
  unfold write
  rcases hmade : File.createAll tree (bundle.directoryOf (Path.join bundle.root path)) with
    ⟨_ | _, grown⟩
  · rw [hmade] at hsame
    rw [within_of_unmade haccepts _ hmade]
    exact .inl hsame
  · rw [hmade] at hsame
    obtain rfl := hsame
    exact .inr (within_of_made haccepts _ hmade)

/-- A file that was there can be read as before if it could not be written. -/
theorem read_of_write_error {old : Bytes} (haccepts : accepts path = true)
    (hread : File.read tree (Path.join bundle.root path) = .ok old)
    (h : (bundle.write tree path content).1.toBool = false) :
    File.read (bundle.write tree path content).2 (Path.join bundle.root path) = .ok old := by
  obtain ⟨front, parent, last, hfull, hwalk, hfound, hagain⟩ := File.read_ok hread
  have hleads := @leads_join bundle.root path haccepts
  obtain ⟨around, name, hpath⟩ := components_of_accepts haccepts
  rw [hpath] at hleads
  -- the file is in the directory that is made around it
  have hsplit := hleads.components_eq.symm.trans hfull
  rw [← List.append_assoc] at hsplit
  obtain ⟨rfl, hname⟩ := List.append_inj' hsplit rfl
  obtain rfl := (List.cons.inj hname).1
  rcases write_of_walked haccepts hleads hwalk content with hsame | hreplace
  · rwa [hsame]
  have hcases := replace_cases bundle hleads hwalk content
  rw [hreplace] at h ⊢
  generalize bundle.replace tree (Path.join bundle.root path) content = written at hcases h ⊢
  rcases hcases with ⟨fault, -, rfl⟩ | ⟨hfault, ⟨fault, -, rfl⟩ | ⟨-, rfl⟩⟩
  · exact hread
  · have hplace : parent ++ [stagingName name] ≠ [] := by simp
    have hfree := (File.free_of_openFault? hfault).2.2
    refine hagain _ (fun place hplaced => ?_) ?_
    · rw [Tree.find?_cleared hplace, if_neg, hplaced]
      rintro rfl
      exact hfree hplaced
    · rw [Tree.find?_cleared hplace, if_neg (by simp [(stagingName_ne_self name).symm]), hfound]
  · cases h

end Bundle

end ClusterBundle
