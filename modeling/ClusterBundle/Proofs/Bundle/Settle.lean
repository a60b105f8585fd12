import ClusterBundle.Proofs.Bundle.Growth

/-!
Giving a file its content, in a directory that is there.

Three things can keep a file from being opened: the text of its path, the length of its name, and a
directory in its place. A file that is replaced needs this twice, once for its staging file, and one
that is added to needs it once. `settleFault?` puts this together, and `settle_of_leads` reads off
it what becomes of every place. In a tree that has grown since then the same things are in the way.
-/

namespace ClusterBundle

open File (Place Tree walk textFault? isTooLong LeadsDown)
open File.Access (Leads)
open ClusterBundle.Path (components EndsPlain endsWithSlash)
open Collect (Mode)

/-! ### Opening a file -/

namespace File

/-- What keeps a file from being opened by a path that leads to a name in a directory. -/
def openFault? (tree : Tree) (path : String) (parent : Place) (name : String) : Option IoFault :=
  match textFault? path with
  | some fault => some fault
  | none =>
      if isTooLong name then some .nameTooLong
      else if tree.find? (parent ++ [name]) = some .directory then some .isDirectory
      else none

variable {tree after : Tree} {parent place : Place} {front : List String} {path name : String}
  {fault : IoFault} {content : Bytes}

theorem openFault?_congr (h : tree.find? (parent ++ [name]) = some .directory ↔
    after.find? (parent ++ [name]) = some .directory) :
    openFault? tree path parent name = openFault? after path parent name := by
  simp only [openFault?, h]

/-- A fault where no directory is in the way is one in any tree. -/
theorem openFault?_of_free (hfree : tree.find? (parent ++ [name]) ≠ some .directory)
    (h : openFault? tree path parent name = some fault) (after : Tree) :
    openFault? after path parent name = some fault := by
  unfold openFault? at h ⊢
  cases htext : textFault? path with
  | some reason => simpa [htext] using h
  | none =>
      simp only [htext, if_neg hfree] at h ⊢
      split at h
      · rename_i hlong
        rw [if_pos hlong]
        exact h
      · cases h

/-- What keeps a file from being opened keeps it from that later on. -/
theorem openFault?_stays (h : openFault? tree path parent name = some fault)
    (hgrown : tree.Grown after) : openFault? after path parent name = some fault := by
  by_cases hfound : tree.find? (parent ++ [name]) = some .directory
  · rw [← h]
    exact openFault?_congr (by simp [hfound, hgrown.kept _ hfound])
  · exact openFault?_of_free hfound h after

theorem free_of_openFault? (h : openFault? tree path parent name = none) :
    textFault? path = none ∧ isTooLong name = false ∧
      tree.find? (parent ++ [name]) ≠ some .directory := by
  unfold openFault? at h
  split at h
  · cases h
  · rename_i htext
    split at h
    · cases h
    split at h
    · cases h
    · exact ⟨htext, by simp_all, by assumption⟩

section

variable (hplain : EndsPlain path) (hpath : components path = front ++ [name])
  (hname : LeadsDown name) (hwalk : walk tree [] front = .ok parent)

include hplain hpath hname hwalk

/-- What cannot be opened cannot be removed. -/
theorem discardFile_of_openFault? (h : openFault? tree path parent name = some fault) :
    Bundle.discardFile tree path = tree := by
  unfold Bundle.discardFile remove stat
  unfold openFault? at h
  cases htext : textFault? path with
  | some reason => simp only [locate_of_fault htext]
  | none =>
      simp only [htext] at h
      simp only [locate_of_plain hplain hpath hname hwalk htext]
      cases hlong : isTooLong name with
      | true => simp
      | false =>
          rw [hlong, if_neg (by simp)] at h
          split at h
          · rename_i hfound
            simp [hfound]
          · cases h

variable (hslash : endsWithSlash path = false)

include hslash

theorem openToWrite_of_plain :
    openToWrite tree path =
      match openFault? tree path parent name with
      | some fault => .error fault
      | none => .ok (parent ++ [name], (tree.content? (parent ++ [name])).getD []) := by
  unfold openToWrite openFault?
  cases htext : textFault? path with
  | some fault => rw [locate_of_fault htext]
  | none =>
      rw [locate_of_plain hplain hpath hname hwalk htext]
      dsimp only
      rw [hslash, if_neg (by simp)]
      cases hlong : isTooLong name with
      | true => rfl
      | false =>
          rw [if_neg (by simp), if_neg (by simp)]
          cases hfound : tree.find? (parent ++ [name]) with
          | none => simp [Tree.content?, hfound]
          | some entry => cases entry <;> simp [Tree.content?, hfound]

theorem rename_of_openFault? {source : String}
    (hsource : stat tree source = .ok (place, .file content)) :
    rename tree source path =
      match openFault? tree path parent name with
      | some fault => .error fault
      | none => .ok ((tree.erase place).insert (parent ++ [name]) (.file content)) := by
  unfold rename openFault?
  rw [hsource]
  cases htext : textFault? path with
  | some fault => rw [locate_of_fault htext]
  | none =>
      rw [locate_of_plain hplain hpath hname hwalk htext, hslash]
      dsimp only
      cases hlong : isTooLong name with
      | true => rfl
      | false => by_cases hfound : tree.find? (parent ++ [name]) = some .directory <;>
          simp [Tree.isDirectory, hfound]

end

end File

open File (openFault?)

/-- Puts something at a full path when the directory around it is there. -/
def Collect.Mode.settle (mode : Mode) (bundle : Bundle) (tree : Tree) (full : String)
    (content : Bytes) : Bundle.Written :=
  match mode with
  | .replace => bundle.replace tree full content
  | .append => Bundle.extend tree full content

theorem Collect.Mode.put_eq_within (mode : Mode) (output : String) (content : Bytes)
    (bundle : Bundle) (tree : Tree) :
    mode.put output content bundle tree =
      bundle.within tree output fun tree full => mode.settle bundle tree full content := by
  cases mode <;> rfl

namespace Bundle

variable {bundle : Bundle} {tree grown after : Tree} {root parent : Place}
  {base full name output : String} {around : List String} {mode : Mode} {content : Bytes}
  {fault : IoFault} {result : Except Fault String}

/-- What keeps a file from getting a content, by way of its staging file or not. -/
def settleFault? (mode : Mode) (bundle : Bundle) (tree : Tree) (full : String) (parent : Place)
    (name : String) : Option IoFault :=
  match mode with
  | .replace =>
      (openFault? tree (bundle.stagingPath full) parent (stagingName name)).or
        (openFault? tree full parent name)
  | .append => openFault? tree full parent name

/-- Whether the place of the staging file is empty afterwards. -/
def Clears (mode : Mode) (bundle : Bundle) (tree : Tree) (full : String) (parent : Place)
    (name : String) : Prop :=
  mode = .replace ∧ openFault? tree (bundle.stagingPath full) parent (stagingName name) = none

instance : Decidable (Clears mode bundle tree full parent name) :=
  inferInstanceAs (Decidable (_ ∧ _))

section

variable (bundle) (hleads : Leads base full (around ++ [name])) (hplain : EndsPlain full)
  (hslash : endsWithSlash full = false)
  (hwalk : walk tree [] (components base ++ around) = .ok parent)

include hleads hplain hslash hwalk

theorem replace_of_leads (content : Bytes) :
    bundle.replace tree full content =
      match openFault? tree (bundle.stagingPath full) parent (stagingName name) with
      | some fault => (.error (.io full fault), tree)
      | none =>
          let cleared := (tree.insert (parent ++ [stagingName name]) (.file content)).erase
            (parent ++ [stagingName name])
          match openFault? tree full parent name with
          | some fault => (.error (.io full fault), cleared)
          | none => (.ok full, cleared.insert (parent ++ [name]) (.file content)) := by
  obtain ⟨hstagingPlain, hstagingSlash⟩ := @stagingPath_plain bundle _ _ _ _ hleads
  have hpath := hleads.1
  have hstagingPath := (@leads_stagingPath bundle _ _ _ _ hleads).1
  rw [← List.append_assoc] at hpath hstagingPath
  have hname : LeadsDown name := hleads.2 name (by simp)
  have hstagingName := leadsDown_stagingName name
  have hopen := File.openToWrite_of_plain hstagingPlain hstagingPath hstagingName hwalk
    hstagingSlash
  unfold replace File.write
  dsimp only
  rw [hopen]
  cases hfault : openFault? tree (bundle.stagingPath full) parent (stagingName name) with
  | some fault =>
      dsimp only [Except.map]
      rw [File.discardFile_of_openFault? hstagingPlain hstagingPath hstagingName hwalk hfault]
  | none =>
      obtain ⟨htext, hshort, hfree⟩ := File.free_of_openFault? hfault
      have hplace : parent ++ [stagingName name] ≠ [] := by simp
      have hother : parent ++ [name] ≠ parent ++ [stagingName name] := by
        simp [(stagingName_ne_self name).symm]
      have hstaged := (File.Tree.change_insert_file hfree content).walk hwalk
      have hthere : (tree.insert (parent ++ [stagingName name]) (.file content)).find?
          (parent ++ [stagingName name]) = some (.file content) := by
        rw [File.Tree.find?_insert_of_ne hplace, if_pos rfl]
      have hsource := File.stat_of_file hstagingPlain hstagingPath hstagingName hstaged htext
        hstagingSlash hshort hthere
      have hsame : openFault? (tree.insert (parent ++ [stagingName name]) (.file content)) full
          parent name = openFault? tree full parent name := by
        refine File.openFault?_congr ?_
        rw [File.Tree.find?_insert_of_ne hplace, if_neg hother]
      dsimp only [Except.map]
      rw [File.rename_of_openFault? hplain hpath hname hstaged hslash hsource, hsame]
      cases openFault? tree full parent name with
      | some fault => simp only [discardFile, File.remove, hsource]
      | none => rfl

theorem extend_of_leads (content : Bytes) :
    extend tree full content =
      match openFault? tree full parent name with
      | some fault => (.error (.io full fault), tree)
      | none => (.ok full, tree.insert (parent ++ [name])
          (.file ((tree.content? (parent ++ [name])).getD [] ++ content))) := by
  have hpath := hleads.1
  rw [← List.append_assoc] at hpath
  have hname : LeadsDown name := hleads.2 name (by simp)
  unfold extend File.append
  rw [File.openToWrite_of_plain hplain hpath hname hwalk hslash]
  cases openFault? tree full parent name <;> rfl

/-- What becomes of a file that is to get a content, and of all other places. -/
theorem settle_of_leads (mode : Mode) (content : Bytes) :
    (mode.settle bundle tree full content).1 =
        (match settleFault? mode bundle tree full parent name with
        | some fault => .error (.io full fault)
        | none => .ok full) ∧
      ∀ place, (mode.settle bundle tree full content).2.find? place =
        if settleFault? mode bundle tree full parent name = none ∧ place = parent ++ [name] then
          some (.file (mode.merge (tree.content? (parent ++ [name])) content))
        else if Clears mode bundle tree full parent name ∧
            place = parent ++ [stagingName name] then none
        else tree.find? place := by
  have hfile : parent ++ [name] ≠ [] := by simp
  have hplace : parent ++ [stagingName name] ≠ [] := by simp
  cases mode with
  | append =>
      have hclears : ¬ Clears .append bundle tree full parent name := fun h => by cases h.1
      simp only [Collect.Mode.settle, extend_of_leads hleads hplain hslash hwalk, settleFault?,
        hclears, false_and, if_false, Collect.Mode.merge]
      cases openFault? tree full parent name with
      | some fault => simp
      | none => simp [File.Tree.find?_insert_of_ne hfile]
  | replace =>
      have hcleared (place : Place) :
          ((tree.insert (parent ++ [stagingName name]) (.file content)).erase
            (parent ++ [stagingName name])).find? place =
              if place = parent ++ [stagingName name] then none else tree.find? place := by
        rw [File.Tree.find?_erase_of_ne hplace]
        split
        · rfl
        · rename_i hother
          rw [File.Tree.find?_insert_of_ne hplace, if_neg hother]
      simp only [Collect.Mode.settle, replace_of_leads bundle hleads hplain hslash hwalk,
        settleFault?, Clears, Collect.Mode.merge, true_and]
      cases openFault? tree (bundle.stagingPath full) parent (stagingName name) with
      | some fault => simp
      | none =>
          cases openFault? tree full parent name with
          | some fault => simp [hcleared]
          | none => simp [File.Tree.find?_insert_of_ne hfile, hcleared]

theorem settle_toBool (mode : Mode) (content : Bytes) :
    (mode.settle bundle tree full content).1.toBool = true ↔
      settleFault? mode bundle tree full parent name = none := by
  rw [(settle_of_leads bundle hleads hplain hslash hwalk mode content).1]
  cases settleFault? mode bundle tree full parent name <;> simp [Except.toBool]

/-- The file gets its content if nothing keeps it from that. -/
theorem settle_fills (h : settleFault? mode bundle tree full parent name = none) (content : Bytes) :
    tree.find? (parent ++ [name]) ≠ some .directory ∧
      (mode.settle bundle tree full content).2.find? (parent ++ [name]) =
        some (.file (mode.merge (tree.content? (parent ++ [name])) content)) := by
  rw [(settle_of_leads bundle hleads hplain hslash hwalk mode content).2, if_pos ⟨h, rfl⟩]
  refine ⟨?_, rfl⟩
  have hopen : openFault? tree full parent name = none := by
    cases mode with
    | append => rwa [settleFault?] at h
    | replace =>
        rw [settleFault?, Option.or_eq_none_iff] at h
        exact h.2
  exact (File.free_of_openFault? hopen).2.2

/-- At all other places only the staging file goes. -/
theorem settle_aside (content : Bytes) {place : Place}
    (hplace : settleFault? mode bundle tree full parent name = none → place ≠ parent ++ [name]) :
    Aside place (tree.find? place) ((mode.settle bundle tree full content).2.find? place) := by
  rw [(settle_of_leads bundle hleads hplain hslash hwalk mode content).2,
    if_neg fun h => hplace h.1 h.2]
  split
  · rename_i hclears
    obtain ⟨⟨-, hopen⟩, rfl⟩ := hclears
    have hfree := (File.free_of_openFault? hopen).2.2
    cases hfound : tree.find? (parent ++ [stagingName name]) with
    | none => exact .same _
    | some entry =>
        cases entry with
        | file old => exact .gone (isStaged_stagingName parent name) old
        | directory => exact absurd hfound hfree
  · exact .same _

variable (hname : IsLasting name)

include hname

theorem settle_grown (mode : Mode) (content : Bytes) :
    tree.Grown (mode.settle bundle tree full content).2 := by
  intro place
  by_cases hfile :
      settleFault? mode bundle tree full parent name = none ∧ place = parent ++ [name]
  · obtain ⟨hfault, rfl⟩ := hfile
    obtain ⟨hfree, hfilled⟩ := settle_fills bundle hleads hplain hslash hwalk hfault content
    exact .inr ⟨not_isStaged hname, hfree, _, hfilled⟩
  · exact .inl (settle_aside bundle hleads hplain hslash hwalk content fun hfault hplace =>
      hfile ⟨hfault, hplace⟩)

/-- What kept the file from its content keeps it from that later on, and nothing else does. -/
theorem settleFault?_again (hafter : (mode.settle bundle tree full content).2.Grown after) :
    settleFault? mode bundle after full parent name =
        settleFault? mode bundle tree full parent name ∧
      (Clears mode bundle after full parent name ↔ Clears mode bundle tree full parent name) := by
  have hgrown : tree.Grown after :=
    (settle_grown bundle hleads hplain hslash hwalk hname mode content).trans hafter
  have hstaging : openFault? after (bundle.stagingPath full) parent (stagingName name) =
      openFault? tree (bundle.stagingPath full) parent (stagingName name) :=
    File.openFault?_congr
      ((hgrown _).directory_iff_of_staged (isStaged_stagingName parent name))
  refine ⟨?_, by rw [Clears, Clears, hstaging]⟩
  cases hfault : settleFault? mode bundle tree full parent name with
  | none =>
      -- there was no directory in the place of the file, and now the file is there
      obtain ⟨hfree, hfilled⟩ := settle_fills bundle hleads hplain hslash hwalk hfault content
      obtain ⟨other, hthere⟩ := hafter.file hfilled (not_isStaged hname)
      have hfull : openFault? after full parent name = openFault? tree full parent name :=
        File.openFault?_congr (by simp [hfree, hthere])
      rw [← hfault]
      cases mode with
      | append => rw [settleFault?, settleFault?, hfull]
      | replace => rw [settleFault?, settleFault?, hstaging, hfull]
  | some fault =>
      cases mode with
      | append =>
          rw [settleFault?] at hfault ⊢
          exact File.openFault?_stays hfault hgrown
      | replace =>
          rw [settleFault?] at hfault ⊢
          rw [hstaging]
          cases hopen : openFault? tree (bundle.stagingPath full) parent (stagingName name) with
          | some reason =>
              rw [hopen] at hfault
              exact hfault
          | none =>
              rw [hopen, Option.none_or] at hfault
              rw [Option.none_or]
              exact File.openFault?_stays hfault hgrown

/-- The second time the file gets its content, or not, as it did before. Nothing else is done. -/
theorem settle_again (hafter : (mode.settle bundle tree full content).2.Grown after)
    (again : Bytes) :
    (mode.settle bundle after full again).1 = (mode.settle bundle tree full content).1 ∧
      ∀ place, (mode.settle bundle after full again).2.find? place =
        if settleFault? mode bundle tree full parent name = none ∧ place = parent ++ [name] then
          some (.file (mode.merge (after.content? (parent ++ [name])) again))
        else after.find? place := by
  have hgrown : tree.Grown after :=
    (settle_grown bundle hleads hplain hslash hwalk hname mode content).trans hafter
  obtain ⟨hfault, hclears⟩ := settleFault?_again bundle hleads hplain hslash hwalk hname hafter
  obtain ⟨hresult, htree⟩ := settle_of_leads bundle hleads hplain hslash hwalk mode content
  obtain ⟨hagain, hplaces⟩ :=
    settle_of_leads bundle hleads hplain hslash (hgrown.walk hwalk) mode again
  rw [hfault] at hagain
  refine ⟨hagain.trans hresult.symm, fun place => ?_⟩
  rw [hplaces, hfault]
  split
  · rfl
  · split
    · -- the staging file has been gone since the first time
      rename_i hcleared
      obtain ⟨hcleared, rfl⟩ := hcleared
      have hother : parent ++ [stagingName name] ≠ parent ++ [name] := by
        simp [stagingName_ne_self name]
      have hgone : (mode.settle bundle tree full content).2.find?
          (parent ++ [stagingName name]) = none := by
        rw [htree, if_neg fun h => hother h.2, if_pos ⟨hclears.1 hcleared, rfl⟩]
      have hlast := hafter (parent ++ [stagingName name])
      rw [hgone] at hlast
      exact (hlast.none_of_staged (isStaged_stagingName parent name)).symm
    · rfl

end

end Bundle

end ClusterBundle
