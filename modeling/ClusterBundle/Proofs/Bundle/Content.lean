import ClusterBundle.Proofs.Bundle.Room
import ClusterBundle.Proofs.Script.Footprint

/-!
What is in the files of a bundle after something was put into one of them.

A file that was put into a bundle is at its place if that succeeded, and if not then the place is as
it was. The staging file is gone in the end, unless it could not be touched at all. Every other
place keeps its content, because only directories come to be there. `Mode.put_content?` brings this
together, for the paths that a bundle accepts, however they are spelled.
-/

namespace ClusterBundle

open File (walk Place)
open File.Access (Leads)
open ClusterBundle.Path (components)

namespace File

/-- The content of the file at a place. -/
def Tree.content? (tree : Tree) (place : Place) : Option Bytes :=
  match tree.find? place with
  | some (.file content) => some content
  | _ => none

variable {tree grown : Tree} {place root : Place} {content : Bytes}

theorem Tree.content?_eq_some_iff :
    tree.content? place = some content ↔ tree.find? place = some (.file content) := by
  unfold content?
  cases tree.find? place with
  | none => simp
  | some entry => cases entry <;> simp

/-- Where nothing is found there is no content, and neither is there where a directory is. -/
theorem Tree.content?_eq_none_iff :
    tree.content? place = none ↔ ∀ content, tree.find? place ≠ some (.file content) := by
  unfold content?
  cases tree.find? place with
  | none => simp
  | some entry => cases entry <;> simp

theorem Tree.content?_congr (h : grown.find? place = tree.find? place) :
    grown.content? place = tree.content? place := by
  unfold content?
  rw [h]

/-- What comes to places that get no file are directories at most, so no content changes there. -/
theorem Tree.Change.content? {files directories : Place → Prop}
    (h : tree.Change files directories grown) (hplace : ¬ files place) :
    grown.content? place = tree.content? place := by
  rcases h.off place hplace with hsame | ⟨-, hnone, hmade⟩
  · exact Tree.content?_congr hsame
  · rw [Tree.content?, Tree.content?, hnone, hmade]

/-- A file that is opened has the content that is found there, and none if it is new. -/
theorem openToWrite_content? {path : String} {old : Bytes}
    (h : openToWrite tree path = .ok (place, old)) : old = (tree.content? place).getD [] := by
  unfold openToWrite at h
  split at h
  · cases h
  · cases h
  · split at h
    · cases h
    split at h
    · cases h
    split at h
    · cases h
    · rename_i found hfound
      cases h
      simp [Tree.content?, hfound]
    · rename_i hnone
      cases h
      simp [Tree.content?, hnone]

end File

namespace Collect

/-- What a file holds that something was put into. -/
def Mode.merge (mode : Mode) (old : Option Bytes) (content : Bytes) : Bytes :=
  match mode with
  | .replace => content
  | .append => old.getD [] ++ content

end Collect

/-- Whether names end with the name of a staging file. -/
def IsStaged (names : List String) : Prop :=
  ∃ front name, names = front ++ [Bundle.stagingName name]

namespace Bundle

variable {bundle : Bundle} {tree after : File.Tree} {root : Place} {base full name path : String}
  {around : List String} {content : Bytes} {result : Except Fault String}

/-! ### Replacing and extending -/

/-- The tree after the file at a path was discarded: as it was, but that the file at the place of
the path may be gone. -/
theorem discardFile_find? {names : List String}
    (hroot : walk tree [] (components base) = .ok root) (hleads : Leads base path names) (place) :
    (discardFile tree path).find? place = tree.find? place ∨
      place = root ++ names ∧ tree.find? place ≠ some .directory ∧
        (discardFile tree path).find? place = none := by
  unfold discardFile
  cases hremove : File.remove tree path with
  | error fault => exact .inl rfl
  | ok cleared =>
      obtain ⟨spot, old, hlocate, hfound, rfl⟩ := File.remove_ok hremove
      rw [File.locate_place hroot hleads.1 hleads.2 hlocate] at hfound ⊢
      have hfile : tree.find? (root ++ names) ≠ some .directory := by simp [hfound]
      rw [File.Tree.find?_erase_of_ne (File.Tree.ne_root_of_find? hfile)]
      by_cases hplace : place = root ++ names
      · exact .inr ⟨hplace, hplace ▸ hfile, by rw [if_pos hplace]⟩
      · exact .inl (by rw [if_neg hplace])

theorem stagingName_ne_self (name : String) : stagingName name ≠ name := by
  intro h
  have hlength := congrArg List.length (congrArg String.toList h)
  rw [toList_stagingName] at hlength
  simp at hlength
  omega

/-- A file that was just written is discarded again. -/
theorem discardFile_of_write {names : List String} {staged : File.Tree}
    (hroot : walk tree [] (components base) = .ok root) (hleads : Leads base path names)
    (h : File.write tree path content = .ok staged) :
    tree.find? (root ++ names) ≠ some .directory ∧
      staged = tree.insert (root ++ names) (.file content) ∧
      discardFile staged path = staged.erase (root ++ names) := by
  obtain ⟨place, hstat⟩ := File.stat_of_write h
  obtain ⟨spot, hlocate, hfree, hstaged⟩ := File.write_ok h
  have hspot := File.locate_place hroot hleads.1 hleads.2 hlocate
  rw [hspot] at hfree hstaged
  refine ⟨hfree, hstaged, ?_⟩
  -- the way to the root is as it was, so the path still leads to the same place
  have hwalk : walk staged [] (components base) = .ok root :=
    hstaged ▸ (File.Tree.change_insert_file hfree content).walk hroot
  obtain ⟨there, hthere, hplace, -⟩ := File.stat_ok hstat
  rw [File.locate_place hwalk hleads.1 hleads.2 hthere] at hplace
  simp only [discardFile, File.remove, hstat, hplace]

section

variable (hroot : walk tree [] (components base) = .ok root)
  (hleads : Leads base full (around ++ [name]))

include hroot hleads

/-- What the files hold after one was replaced. -/
theorem replace_content? (hclear : tree.content? (root ++ (around ++ [stagingName name])) = none)
    (h : bundle.replace tree full content = (result, after)) (place : Place) :
    after.content? place =
      if result.toBool = true ∧ place = root ++ (around ++ [name]) then some content
      else tree.content? place := by
  have hstaging : Leads base (bundle.stagingPath full) (around ++ [stagingName name]) :=
    leads_stagingPath hleads
  have hother : root ++ (around ++ [name]) ≠ root ++ (around ++ [stagingName name]) := by
    simp [(stagingName_ne_self name).symm]
  unfold replace at h
  dsimp only at h
  cases hwrite : File.write tree (bundle.stagingPath full) content with
  | error fault =>
      rw [hwrite] at h
      cases h
      rw [if_neg (by simp [Except.toBool])]
      rcases discardFile_find? hroot hstaging place with hsame | ⟨rfl, -, hgone⟩
      · exact File.Tree.content?_congr hsame
      · rw [hclear, File.Tree.content?, hgone]
  | ok staged =>
      rw [hwrite] at h
      obtain ⟨hfree, hstaged, hdiscard⟩ := discardFile_of_write hroot hstaging hwrite
      have hplace : root ++ (around ++ [stagingName name]) ≠ [] := by simp
      -- without the staging file the tree is as it was, up to the place of that file
      have hcleared : ∀ here,
          (staged.erase (root ++ (around ++ [stagingName name]))).content? here =
            tree.content? here := by
        intro here
        by_cases hhere : here = root ++ (around ++ [stagingName name])
        · rw [hhere, hclear, File.Tree.content?, File.Tree.find?_erase_of_ne hplace, if_pos rfl]
        · refine File.Tree.content?_congr ?_
          rw [File.Tree.find?_erase_of_ne hplace, if_neg hhere, hstaged,
            File.Tree.find?_insert_of_ne hplace, if_neg hhere]
      dsimp only at h
      cases hrename : File.rename staged (bundle.stagingPath full) full with
      | error fault =>
          rw [hrename] at h
          cases h
          rw [if_neg (by simp [Except.toBool]), hdiscard, hcleared]
      | ok moved =>
          rw [hrename] at h
          cases h
          have hwalk : walk staged [] (components base) = .ok root :=
            hstaged ▸ (File.Tree.change_insert_file hfree content).walk hroot
          obtain ⟨start, spot, moving, hstart, hspot, hfound, -, hmoved⟩ :=
            File.rename_ok hrename
          rw [File.locate_place hwalk hstaging.1 hstaging.2 hstart] at hfound hmoved
          rw [File.locate_place hwalk hleads.1 hleads.2 hspot] at hmoved
          obtain rfl : content = moving := by
            rw [hstaged, File.Tree.find?_insert_of_ne hplace, if_pos rfl] at hfound
            simpa using hfound
          have htarget : root ++ (around ++ [name]) ≠ [] := by simp
          by_cases hhere : place = root ++ (around ++ [name])
          · rw [if_pos ⟨rfl, hhere⟩, File.Tree.content?_eq_some_iff, hmoved,
              File.Tree.find?_insert_of_ne htarget, if_pos hhere]
          · rw [if_neg (fun h => hhere h.2), ← hcleared]
            refine File.Tree.content?_congr ?_
            rw [hmoved, File.Tree.find?_insert_of_ne htarget, if_neg hhere]

/-- What the files hold after one was extended. -/
theorem extend_content? (h : extend tree full content = (result, after)) (place : Place) :
    after.content? place =
      if result.toBool = true ∧ place = root ++ (around ++ [name]) then
        some ((tree.content? place).getD [] ++ content)
      else tree.content? place := by
  unfold extend at h
  cases happend : File.append tree full content with
  | error fault =>
      rw [happend] at h
      cases h
      rw [if_neg (by simp [Except.toBool])]
  | ok grown =>
      rw [happend] at h
      cases h
      unfold File.append at happend
      cases hopen : File.openToWrite tree full with
      | error fault => simp [hopen, Except.map] at happend
      | ok opened =>
          obtain ⟨there, old⟩ := opened
          simp only [hopen, Except.map, Except.ok.injEq] at happend
          have hold := File.openToWrite_content? hopen
          obtain ⟨spot, hlocate, rfl, -⟩ := File.openToWrite_ok hopen
          rw [File.locate_place hroot hleads.1 hleads.2 hlocate] at happend hold
          have htarget : root ++ (around ++ [name]) ≠ [] := by simp
          by_cases hhere : place = root ++ (around ++ [name])
          · rw [if_pos ⟨rfl, hhere⟩, File.Tree.content?_eq_some_iff, ← happend, hhere,
              ← hold, File.Tree.find?_insert_of_ne htarget, if_pos rfl]
          · rw [if_neg (fun h => hhere h.2)]
            refine File.Tree.content?_congr ?_
            rw [← happend, File.Tree.find?_insert_of_ne htarget, if_neg hhere]

end

/-! ### Putting something into a bundle -/

/-- Directories that are made inside of the bundle change no content, and leave its root open. -/
theorem createAll_content? {directory : String} {names : List String}
    (hroot : walk tree [] (components base) = .ok root) (hleads : Leads base directory names) :
    (∀ place, (File.createAll tree directory).2.content? place = tree.content? place) ∧
      walk (File.createAll tree directory).2 [] (components base) = .ok root := by
  have hchange := File.Access.change_performAll (File.fits_createAllAccesses hroot hleads) hroot
  rw [File.performAll_createAllAccesses] at hchange
  refine ⟨fun place => hchange.content? ?_, hchange.walk hroot⟩
  rintro ⟨_, hfile, -⟩
  exact hfile

/-- What is refused leaves the tree alone. -/
theorem put_of_not_accepts {output : String} (mode : Collect.Mode)
    (h : accepts output = false) :
    mode.put output content bundle tree = (.error (.outside output), tree) := by
  cases mode <;> simp [Collect.Mode.put, write, append, within, resolve, h]

/-- What the files hold after something was put into one, if there was no file in the place of its
staging file. -/
theorem put_content? {mode : Collect.Mode} {output : String}
    (hroot : walk tree [] (components bundle.root) = .ok root) (haccepts : accepts output = true)
    (hpath : components output = around ++ [name])
    (hclear : tree.content? (root ++ (around ++ [stagingName name])) = none)
    (h : mode.put output content bundle tree = (result, after)) (place : Place) :
    after.content? place =
      if result.toBool = true ∧ place = root ++ components output then
        some (mode.merge (tree.content? place) content)
      else tree.content? place := by
  have hleads : Leads bundle.root (Path.join bundle.root output) (around ++ [name]) :=
    hpath ▸ leads_join haccepts
  have hdirectory := @leads_directoryOf bundle _ _ _ _ hleads
  obtain ⟨hsame, hwalk⟩ := createAll_content? hroot hdirectory
  have hresolve : bundle.resolve output = .ok (Path.join bundle.root output) := by
    rw [resolve, if_pos haccepts]
  rw [hpath]
  -- the directories are made first, and only then the file is touched
  cases hmade : File.createAll tree (bundle.directoryOf (Path.join bundle.root output)) with
  | mk made grown =>
      rw [hmade] at hsame hwalk
      cases made with
      | error fault =>
          have hafter : result.toBool = false ∧ after = grown := by
            cases mode <;>
              · simp only [Collect.Mode.put, write, append, within, hresolve, hmade,
                  Prod.mk.injEq] at h
                exact ⟨by rw [← h.1]; rfl, h.2.symm⟩
          rw [if_neg (by simp [hafter.1]), hafter.2, hsame]
      | ok _ =>
          rw [← hsame] at hclear
          cases mode with
          | replace =>
              simp only [Collect.Mode.put, write, within, hresolve, hmade] at h
              rw [replace_content? hwalk hleads hclear h, hsame]
              rfl
          | append =>
              simp only [Collect.Mode.put, append, within, hresolve, hmade] at h
              rw [extend_content? hwalk hleads h, hsame]
              rfl

/-- The root of a bundle stays where it is while something is put into the bundle. -/
theorem walk_put {mode : Collect.Mode} {output : String}
    (hroot : walk tree [] (components bundle.root) = .ok root) :
    walk (mode.put output content bundle tree).2 [] (components bundle.root) = .ok root := by
  rw [← Collect.Mode.performAll_accesses]
  have hfits : ∀ access ∈ mode.accesses output content bundle tree,
      File.Access.Fits bundle.root (filesOf output) (Bundle.around output) access := by
    cases mode with
    | replace => exact fits_writeAccesses hroot
    | append => exact fits_appendAccesses hroot
  exact (File.Access.change_performAll hfits hroot).walk hroot

end Bundle

end ClusterBundle
