import ClusterBundle.Proofs.Bundle.Access
import ClusterBundle.Proofs.File.Located

/-!
When a bundle can be written to.

Where nothing is in the way, it is up to the texts of three paths whether a file gets into the
bundle: that of the file, that of its staging file and that of the directory around them. So two
trees in which nothing is in the way take the same file or both refuse it, however much else there
is in one of them. What was written can be read again.

Nothing is in the way of a file in a bundle that was empty if all that was put into it since then
`Spares` the file: it went neither to the place of the file or its staging file nor below one of
them, and no file went to where the directory around them belongs.
-/

namespace ClusterBundle

open File (walk textFault? isTooLong LeadsDown)
open File.Access (Leads)
open ClusterBundle.Path (components EndsPlain endsWithSlash)

namespace Bundle

/-- The path of a file and that of its staging file can be used, as far as their texts go. -/
def HasNames (bundle : Bundle) (full : String) : Prop :=
  let name := (Path.fileName? full).getD ""
  (textFault? (bundle.stagingPath full) = none ∧ isTooLong (stagingName name) = false) ∧
    textFault? full = none ∧ isTooLong name = false ∧ endsWithSlash full = false

/-- The paths by which a file is written can be used, as far as their texts go. -/
def HasRoom (bundle : Bundle) (path : String) : Prop :=
  let full := Path.join bundle.root path
  (bundle.directoryOf full = "" ∨ textFault? (bundle.directoryOf full) = none) ∧
    bundle.HasNames full

/-- The directory that some names lead to is there, or only its last name is missing. -/
def Ready (tree : File.Tree) (base : List String) (root : File.Place) (around : List String) :
    Prop :=
  walk tree [] (base ++ around) = .ok (root ++ around) ∨
    ∃ front name, around = front ++ [name] ∧
      walk tree [] (base ++ front) = .ok (root ++ front) ∧ isTooLong name = false ∧
      tree.find? (root ++ around) = none

variable {bundle : Bundle} {tree : File.Tree} {root : File.Place}
  {base path full name last : String}
  {around : List String} {content : Bytes}

/-! ### The directory -/

/-- Making the directory around a file, if nothing is in the way. -/
theorem createAll_of_ready {directory : String} (hleads : Leads base directory around)
    (hplain : EndsPlain directory) (hready : Ready tree (components base) root around) :
    ((File.createAll tree directory).1 = .ok () ↔
        directory = "" ∨ textFault? directory = none) ∧
      ((File.createAll tree directory).1 = .ok () →
        walk (File.createAll tree directory).2 [] (components base ++ around) =
            .ok (root ++ around) ∧
          ∀ place, place ≠ root ++ around →
            (File.createAll tree directory).2.find? place = tree.find? place) := by
  rcases hready with hwalk | ⟨front, name, rfl, hwalk, hshort, hmissing⟩
  · -- to make it again does nothing
    obtain ⟨hsame, hok⟩ := File.createAll_of_walked (hleads.1.symm ▸ hwalk)
    rw [hsame]
    exact ⟨hok, fun _ => ⟨hwalk, fun _ _ => rfl⟩⟩
  · -- only the last name is missing, so no other directory is made
    have hname : LeadsDown name := hleads.2 name (by simp)
    have hpath := hleads.1
    rw [← List.append_assoc] at hmissing hpath
    obtain ⟨hok, hmade⟩ := File.createAll_of_missing hplain hpath hname hwalk hshort hmissing
    have hempty : directory ≠ "" := Path.ne_empty_of_components hpath
    refine ⟨by rw [hok]; simp [hempty], fun h => ?_⟩
    have hplace : root ++ front ++ [name] ≠ [] := by simp
    rw [hmade h, ← List.append_assoc, ← List.append_assoc]
    refine ⟨File.walk_child ?_ hname hshort ?_, fun place hother => ?_⟩
    · exact (File.Tree.change_insert_directory hmissing).walk hwalk
    · rw [File.Tree.find?_insert_of_ne hplace, if_pos rfl]
    · rw [File.Tree.find?_insert_of_ne hplace, if_neg hother]

/-! ### The file -/

theorem stagingPath_of_leads (hleads : Leads base full (around ++ [name])) :
    Path.fileName? full = some name ∧ Path.IsPiece name ∧
      bundle.stagingPath full = Path.join (bundle.directoryOf full) (stagingName name) := by
  have hfull := hleads.1
  rw [← List.append_assoc] at hfull
  have hfile := Path.fileName?_eq_some hfull (hleads.2 name (by simp)).2
  have hname : name ∈ components full := by simp [hfull]
  exact ⟨hfile, (Path.mem_components hname).1, by rw [stagingPath, hfile, Option.getD_some]⟩

/-- The path of a staging file ends with its name. -/
theorem stagingPath_plain (hleads : Leads base full (around ++ [name])) :
    EndsPlain (bundle.stagingPath full) ∧ endsWithSlash (bundle.stagingPath full) = false := by
  obtain ⟨-, hpiece, hpath⟩ := @stagingPath_of_leads bundle _ _ _ _ hleads
  have hstaging := isPiece_stagingName hpiece
  have hidle := not_isIdle_stagingName name
  have hempty : stagingName name ≠ "" := by
    intro h
    simp [h, Path.isIdle] at hidle
  rw [hpath]
  exact ⟨Path.endsPlain_join hstaging hidle _, Path.not_endsWithSlash_join hstaging hempty _⟩

/-- Writing a file by way of its staging file, in a directory that is there and in which nothing is
in the way. -/
theorem replace_toBool (hleads : Leads base full (around ++ [name])) (hplain : EndsPlain full)
    (hwalk : walk tree [] (components base ++ around) = .ok (root ++ around))
    (hfile : tree.find? (root ++ around ++ [name]) = none)
    (hstaging : tree.find? (root ++ around ++ [stagingName name]) = none) (content : Bytes) :
    (bundle.replace tree full content).1.toBool = true ↔ bundle.HasNames full := by
  have hlast := (@stagingPath_of_leads bundle _ _ _ _ hleads).1
  obtain ⟨hstagingPlain, hslash⟩ := @stagingPath_plain bundle _ _ _ _ hleads
  have hpath := hleads.1
  have hstagingPath := (@leads_stagingPath bundle _ _ _ _ hleads).1
  rw [← List.append_assoc] at hpath hstagingPath
  have hname : LeadsDown name := hleads.2 name (by simp)
  have hstagingName := leadsDown_stagingName name
  have hfree : tree.find? (root ++ around ++ [stagingName name]) ≠ some .directory := by
    rw [hstaging]
    simp
  have hwrite := File.write_of_plain hstagingPlain hstagingPath hstagingName hwalk hslash hfree
    content
  unfold replace HasNames
  rw [hlast, Option.getD_some]
  dsimp only
  rw [hwrite]
  -- the staging file can be written or not, and only then the file can be moved or not
  cases hfault : textFault? (bundle.stagingPath full) with
  | some fault => simp [Except.toBool]
  | none =>
  cases hshort : isTooLong (stagingName name) with
  | true => simp [Except.toBool]
  | false =>
      have hplace : root ++ around ++ [stagingName name] ≠ [] := by simp
      have hchange := File.Tree.change_insert_file hfree content
      have hthere : (tree.insert (root ++ around ++ [stagingName name]) (.file content)).find?
          (root ++ around ++ [stagingName name]) = some (.file content) := by
        rw [File.Tree.find?_insert_of_ne hplace, if_pos rfl]
      have hsource := File.stat_of_file hstagingPlain hstagingPath hstagingName
        (hchange.walk hwalk) hfault hslash hshort hthere
      have hclear : (tree.insert (root ++ around ++ [stagingName name])
          (.file content)).find? (root ++ around ++ [name]) ≠ some .directory := by
        rw [File.Tree.find?_insert_of_ne hplace]
        split
        · simp
        · rw [hfile]
          simp
      have hmoved := File.rename_of_plain hplain hpath hname (hchange.walk hwalk) hsource hclear
      simp only [Bool.false_eq_true, if_false, true_and]
      rw [← hmoved]
      cases File.rename (tree.insert (root ++ around ++ [stagingName name]) (.file content))
          (bundle.stagingPath full) full <;> simp [Except.toBool]

theorem endsPlain_directoryOf (hleads : Leads base full (around ++ [name])) :
    EndsPlain (bundle.directoryOf full) := by
  have hfull := hleads.1
  rw [← List.append_assoc] at hfull
  obtain ⟨directory, hparent, -⟩ := Path.parent?_eq_some hfull
  rw [directoryOf, hparent]
  exact Path.endsPlain_of_parent? hparent

section

variable (haccepts : accepts path = true) (hpath : components path = around ++ [name])
  (hplain : EndsPlain path)
  (hready : Ready tree (components bundle.root) root around)
  (hfile : tree.find? (root ++ around ++ [name]) = none)
  (hstaging : tree.find? (root ++ around ++ [stagingName name]) = none)

include haccepts hpath hplain hready hfile hstaging

/-- A file gets into a bundle in which nothing is in the way if its paths can be used. -/
theorem write_toBool (content : Bytes) :
    (bundle.write tree path content).1.toBool = true ↔ bundle.HasRoom path := by
  have hleads : Leads bundle.root (Path.join bundle.root path) (around ++ [name]) :=
    hpath ▸ leads_join haccepts
  obtain ⟨hrelative, hnames, -⟩ := accepts_iff.1 haccepts
  have hfull := hplain.join hrelative hnames bundle.root
  obtain ⟨hok, hmade⟩ := createAll_of_ready (@leads_directoryOf bundle _ _ _ _ hleads)
    (endsPlain_directoryOf hleads) hready
  unfold write within resolve HasRoom
  rw [if_pos haccepts]
  dsimp only
  rw [← hok]
  have hlast : ∀ last, root ++ around ++ [last] ≠ root ++ around := by simp
  cases hcreated : File.createAll tree (bundle.directoryOf (Path.join bundle.root path)) with
  | mk made grown =>
      cases made with
      | error fault => simp [Except.toBool]
      | ok _ =>
          rw [hcreated] at hmade
          obtain ⟨hwalk, hsame⟩ := hmade rfl
          rw [← hsame _ (hlast _)] at hfile hstaging
          simpa using replace_toBool hleads hfull hwalk hfile hstaging content

end

theorem read_of_replace {grown : File.Tree}
    (h : (bundle.replace tree full content) = (.ok path, grown)) :
    path = full ∧ File.read grown full = .ok content := by
  unfold replace at h
  dsimp only at h
  cases hstaged : File.write tree (bundle.stagingPath full) content with
  | error fault => simp [hstaged] at h
  | ok staged =>
      rw [hstaged] at h
      dsimp only at h
      cases hmoved : File.rename staged (bundle.stagingPath full) full with
      | error fault => simp [hmoved] at h
      | ok moved =>
          rw [hmoved] at h
          obtain ⟨place, hsource⟩ := File.stat_of_write hstaged
          cases h
          exact ⟨rfl, File.read_of_rename hsource hmoved⟩

/-- What was written can be read again. -/
theorem read_of_write {grown : File.Tree}
    (h : bundle.write tree path content = (.ok full, grown)) :
    bundle.resolve path = .ok full ∧ File.read grown full = .ok content := by
  unfold write within at h
  cases hresolve : bundle.resolve path with
  | error fault => simp [hresolve] at h
  | ok resolved =>
      rw [hresolve] at h
      dsimp only at h
      rcases hmade : File.createAll tree (bundle.directoryOf resolved) with ⟨_ | _, made⟩
      · simp [hmade] at h
      · rw [hmade] at h
        obtain ⟨rfl, hread⟩ := read_of_replace h
        exact ⟨rfl, hread⟩

/-! ### Leaving a file alone -/

/-- What is put at a path stays clear of the file with a name in a directory. -/
def Spares (around : List String) (name path : String) : Prop :=
  ∀ names, filesOf path names →
    names ≠ around ∧ ¬ around ++ [name] <+: names ∧ ¬ around ++ [stagingName name] <+: names

theorem filesOf_components (h : accepts path = true) : filesOf path (components path) := by
  obtain ⟨front, last, hlast⟩ := components_of_accepts h
  exact ⟨h, front, last, hlast, .inl hlast⟩

theorem Spares.clear {names : List String} (h : Spares around name path)
    (hnames : filesOf path names) (hlast : last = name ∨ last = stagingName name) :
    ¬ around ++ [last] <+: names := by
  rcases hlast with rfl | rfl
  · exact (h names hnames).2.1
  · exact (h names hnames).2.2

/-- A path with another first name than the directory stays clear of what is in the directory. -/
theorem spares_of_head {directory head : String} {rest : List String}
    (hpath : accepts path = true → components path = head :: rest) (hhead : head ≠ directory)
    (hstaging : rest = [] → stagingName head ≠ directory) : Spares [directory] name path := by
  rintro names ⟨haccepts, front, last, hlast, hnames⟩
  rw [hpath haccepts] at hlast
  have hother : ∃ first behind, names = first :: behind ∧ first ≠ directory := by
    cases front with
    | nil =>
        obtain ⟨rfl, rfl⟩ := List.cons.inj hlast
        rcases hnames with rfl | rfl
        · exact ⟨head, [], rfl, hhead⟩
        · exact ⟨stagingName head, [], rfl, hstaging rfl⟩
    | cons first behind =>
        obtain ⟨rfl, -⟩ := List.cons.inj hlast
        rcases hnames with rfl | rfl
        · exact ⟨head, _, rfl, hhead⟩
        · exact ⟨head, _, rfl, hhead⟩
  obtain ⟨first, behind, rfl, hfirst⟩ := hother
  simp [hfirst, hfirst.symm]

/-- Neither does a file in a directory get in the way of another file in one. -/
theorem spares_of_last {directory other : String} (hpath : components path = [other, last])
    (hlast : last ≠ name) (hstaged : last ≠ stagingName name)
    (hstaging : stagingName last ≠ name) (hboth : stagingName last ≠ stagingName name) :
    Spares [directory] name path := by
  rintro names ⟨-, front, final, hfinal, hnames⟩
  have hsplit : [other] ++ [last] = front ++ [final] := hpath.symm.trans hfinal
  obtain ⟨rfl, hsingle⟩ := List.append_inj' hsplit rfl
  obtain rfl := (List.cons.inj hsingle).1
  rcases hnames with rfl | rfl
  · simp [hlast.symm, hstaged.symm]
  · simp [hstaging.symm, hboth.symm]

/-- A file in a directory does not get in the way of a file beside the directory. -/
theorem spares_of_beside {other : String} (hpath : components path = [other, last])
    (hother : other ≠ name) (hstaging : other ≠ stagingName name) : Spares [] name path := by
  rintro names ⟨-, front, final, hfinal, hnames⟩
  have hsplit : [other] ++ [last] = front ++ [final] := hpath.symm.trans hfinal
  obtain ⟨rfl, -⟩ := List.append_inj' hsplit rfl
  rcases hnames with rfl | rfl <;> simp [hother.symm, hstaging.symm]

theorem stagingName_inj {first second : String} (h : stagingName first = stagingName second) :
    first = second := by
  have htexts := congrArg String.toList h
  rw [toList_stagingName, toList_stagingName] at htexts
  exact String.toList_inj.1 (List.append_cancel_right (List.cons.inj htexts).2)

/-- The name of a staging file starts with a dot. -/
theorem stagingName_ne (h : name.toList.head? ≠ some '.') : stagingName last ≠ name := by
  rintro rfl
  rw [toList_stagingName] at h
  exact h rfl

end Bundle

end ClusterBundle
