import ClusterBundle.Proofs.Bundle.Attempt
import ClusterBundle.Proofs.File.Sound

/-!
A file is written as a whole or not at all.

Writing a file can fail at the directory around it, perhaps after some directories were made, at its
staging file, and at the move of the staging file to its place. After each of these the tree is as
it was before up to directories around the file, and the staging file is gone. Only a staging file
that was there already can be out of reach, and in a tree of a file system nothing but the length of
its path can put it there. `write_atomic` says this of every path, whether the bundle accepts it or
not.
-/

namespace ClusterBundle

open File (Place Tree walk textFault? isTooLong pathLimit LeadsDown openFault? Opens)
open File.Access (Leads)
open ClusterBundle.Path (components)

namespace File

variable {tree : Tree} {parent : Place} {path name : String} {front : List String}
  {fault : IoFault} {content : Bytes}

/-- A file that is there can be opened, unless the path to it is too long. -/
theorem tooLong_of_openFault? (h : tree.Sound) (hpath : components path = front ++ [name])
    (hwalk : walk tree [] front = .ok parent)
    (hfound : tree.find? (parent ++ [name]) = some (.file content))
    (hfault : openFault? tree path parent name = some fault) :
    pathLimit ≤ (Utf8.encode path).length := by
  have hthere : tree.find? (parent ++ [name]) ≠ none := by simp [hfound]
  have hclean : ∀ other ∈ components path, '\x00' ∉ other.toList := by
    intro other hother
    rw [hpath] at hother
    rcases List.mem_append.1 hother with hother | hother
    · exact h.clean_of_walk hwalk other hother
    · rw [List.mem_singleton.1 hother]
      exact h.clean _ hthere name (by simp)
  unfold openFault? at hfault
  cases htext : textFault? path with
  | some reason => exact tooLong_of_clean hclean (Path.ne_empty_of_components hpath) htext
  | none => simp [htext, h.short _ hthere name (by simp), hfound] at hfault

end File

/-! ### Writing a file -/

namespace Bundle

variable {bundle : Bundle} {tree grown after : Tree} {root here : Place}
  {base full name path : String} {around : List String} {content : Bytes} {fault : IoFault}
  {result : Except IoFault Unit}

/-- The tree after a file was written: it holds the content, its staging file is gone, what was
missing of the directories around it was made, and everything else is as it was. -/
structure Delivered (root : Place) (around : List String) (name : String) (content : Bytes)
    (before after : Tree) : Prop where
  file : after.find? (root ++ around ++ [name]) = some (.file content)
  staging : after.find? (root ++ around ++ [stagingName name]) = none
  ancestors : ∀ place, place <+: root ++ around →
    after.find? place = some .directory ∧
      (before.find? place = some .directory ∨ before.find? place = none)
  others : ∀ place, ¬ place <+: root ++ around → place ≠ root ++ around ++ [name] →
    place ≠ root ++ around ++ [stagingName name] → after.find? place = before.find? place

/-- The tree after a file could not be written: what is at its place is as it was, and so is
everything else up to directories around it that came to be there. A file in the place of its
staging file is gone, unless the path to that place is too long for the system. -/
structure Spared (bundle : Bundle) (full : String) (root : Place) (around : List String)
    (name : String) (before after : Tree) : Prop where
  file : after.find? (root ++ around ++ [name]) = before.find? (root ++ around ++ [name])
  staging : after.find? (root ++ around ++ [stagingName name]) =
    if (Utf8.encode (bundle.stagingPath full)).length < pathLimit ∧
        before.find? (root ++ around ++ [stagingName name]) ≠ some .directory then none
    else before.find? (root ++ around ++ [stagingName name])
  others : ∀ place, place ≠ root ++ around ++ [stagingName name] →
    after.find? place = before.find? place ∨
      place <+: root ++ around ∧ before.find? place = none ∧ after.find? place = some .directory

/-- A path is at least as long as what it was joined from. -/
theorem length_le_join {base path : String} (h : Path.isAbsolute path = false) :
    (Utf8.encode base).length + (Utf8.encode path).length ≤
      (Utf8.encode (Path.join base path)).length := by
  unfold Path.join
  rw [if_neg (by simp [h])]
  split <;> simp only [Utf8.encode_append, List.length_append] <;> omega

theorem length_directoryOf_le (full : String) :
    (Utf8.encode (bundle.directoryOf full)).length ≤
      (Utf8.encode (bundle.stagingPath full)).length := by
  have hrelative : ∀ name, Path.isAbsolute (stagingName name) = false := by
    intro name
    rw [Bool.eq_false_iff, ne_eq, Path.isAbsolute_iff, toList_stagingName]
    simp
  exact Nat.le_trans (Nat.le_add_right _ _) (length_le_join (hrelative _))

/-- Where only directories around a file came to be there, and no file was in the place of its
staging file or its path is too long, the file was spared. -/
theorem Furnished.spared (h : Furnished tree grown (root ++ around))
    (hstaging : ∀ old, tree.find? (root ++ around ++ [stagingName name]) = some (.file old) →
      pathLimit ≤ (Utf8.encode (bundle.stagingPath full)).length) :
    Spared bundle full root around name tree grown where
  file := h.below name
  staging := by
    rw [h.below]
    split
    · rename_i hshort
      cases hfound : tree.find? (root ++ around ++ [stagingName name]) with
      | none => rfl
      | some entry =>
          cases entry with
          | directory => exact absurd hfound hshort.2
          | file old =>
              have hlong := hstaging old hfound
              omega
    · rfl
  others := fun place _ => h place

/-- A staging file that was opened and removed again was spared as well. -/
theorem Furnished.spared_cleared (h : Furnished tree grown (root ++ around))
    (hshort : (Utf8.encode (bundle.stagingPath full)).length < pathLimit)
    (hfree : grown.find? (root ++ around ++ [stagingName name]) ≠ some .directory)
    (content : Bytes) :
    Spared bundle full root around name tree
      (grown.cleared (root ++ around ++ [stagingName name]) content) := by
  have hplace : root ++ around ++ [stagingName name] ≠ [] := by simp
  have hother : root ++ around ++ [name] ≠ root ++ around ++ [stagingName name] := by
    simp [(stagingName_ne_self name).symm]
  refine ⟨?_, ?_, fun place hne => ?_⟩
  · rw [Tree.find?_cleared hplace, if_neg hother, h.below]
  · rw [h.below] at hfree
    rw [Tree.find?_cleared hplace, if_pos rfl, if_pos ⟨hshort, hfree⟩]
  · rw [Tree.find?_cleared hplace, if_neg hne]
    exact h place

theorem Furnished.delivered (h : Furnished tree grown (root ++ around))
    (hopen : grown.Open (root ++ around)) (content : Bytes) :
    Delivered root around name content tree
      ((grown.cleared (root ++ around ++ [stagingName name]) content).insert
        (root ++ around ++ [name]) (.file content)) := by
  have hplace : root ++ around ++ [stagingName name] ≠ [] := by simp
  have hfile : root ++ around ++ [name] ≠ [] := by simp
  have hother : root ++ around ++ [stagingName name] ≠ root ++ around ++ [name] := by
    simp [stagingName_ne_self name]
  -- no directory around the file is in its place or in that of its staging file
  have houter : ∀ last place, place <+: root ++ around → place ≠ root ++ around ++ [last] := by
    rintro last place haround rfl
    have hlength := haround.length_le
    simp only [List.length_append, List.length_singleton] at hlength
    omega
  refine ⟨?_, ?_, fun place haround => ⟨?_, ?_⟩, fun place hbelow hne hnestaging => ?_⟩
  · rw [Tree.find?_insert_of_ne hfile, if_pos rfl]
  · rw [Tree.find?_insert_of_ne hfile, if_neg hother, Tree.find?_cleared hplace, if_pos rfl]
  · rw [Tree.find?_insert_of_ne hfile, if_neg (houter _ _ haround), Tree.find?_cleared hplace,
      if_neg (houter _ _ haround)]
    exact hopen place haround
  · rcases h place with hsame | ⟨-, hnone, -⟩
    · exact .inl (hsame ▸ hopen place haround)
    · exact .inr hnone
  · rw [Tree.find?_insert_of_ne hfile, if_neg hne, Tree.find?_cleared hplace, if_neg hnestaging]
    rcases h place with hsame | ⟨haround, -⟩
    · exact hsame
    · exact absurd haround hbelow

/-- If a file is in the place of a staging file, then the directory around it is there, and only the
length of its path keeps it from being made again. -/
theorem createAll_of_staged (bundle : Bundle) (hsound : tree.Sound)
    (hbase : walk tree [] (components base) = .ok here)
    (hleads : Leads base full (around ++ [name])) (old : Bytes)
    (hstaged : tree.find? (here ++ around ++ [stagingName name]) = some (.file old)) :
    (File.createAll tree (bundle.directoryOf full)).2 = tree ∧
      ((File.createAll tree (bundle.directoryOf full)).1 ≠ .ok () →
        pathLimit ≤ (Utf8.encode (bundle.stagingPath full)).length) := by
  have hdirectory := @leads_directoryOf bundle _ _ _ _ hleads
  have hthere := hsound.closed (here ++ around) _ (by rw [hstaged]; simp)
  have hwalk := (File.walk_append_of_ok hbase around).trans
    (hsound.walk_of_found hdirectory.down hthere)
  rw [← hdirectory.components_eq] at hwalk
  obtain ⟨hsame, hok⟩ := File.createAll_of_walked hwalk
  refine ⟨hsame, fun hfailed => ?_⟩
  rw [ne_eq, hok, not_or] at hfailed
  obtain ⟨fault, hfault⟩ := Option.ne_none_iff_exists'.1 hfailed.2
  have hlong := File.tooLong_of_clean (hsound.clean_of_walk hwalk) hfailed.1 hfault
  exact Nat.le_trans hlong (length_directoryOf_le full)

/-- A write either delivers its content or spares what was there. A path that the bundle does not
accept changes nothing. If it succeeds, then the file holds the content and the directories around
it are there, and if it fails, then the file is as it was and there are directories around it at
most that were not there before; in both cases the staging file is gone and everything else stays.
Where a write fails because of a path that is too long, a file that was in the place of the staging
file before stays. -/
theorem write_atomic (bundle : Bundle) (tree : Tree) (root : Place) (path : String)
    (content : Bytes) (hsound : tree.Sound) (hroot : tree.LiesAt bundle.root root) :
    (accepts path = false → bundle.write tree path content = (.error (.outside path), tree)) ∧
      (accepts path = true → ∃ around name, components path = around ++ [name] ∧
        match bundle.write tree path content with
        | (.ok full, after) =>
            full = Path.join bundle.root path ∧ Delivered root around name content tree after
        | (.error _, after) =>
            Spared bundle (Path.join bundle.root path) root around name tree after) := by
  refine ⟨put_of_not_accepts .replace, fun haccepts => ?_⟩
  obtain ⟨around, name, hpath⟩ := components_of_accepts haccepts
  refine ⟨around, name, hpath, ?_⟩
  obtain ⟨base, here, names, hbase, hlies, rfl⟩ := hroot
  have hleads := leads_of_lies hlies haccepts
  rw [hpath, ← List.append_assoc] at hleads
  unfold write
  rcases hmade : File.createAll tree (bundle.directoryOf (Path.join bundle.root path)) with
    ⟨result, grown⟩
  have hgrown := furnished_createAll hbase hleads hmade
  rw [← List.append_assoc] at hgrown
  have hstaged := createAll_of_staged bundle hsound hbase hleads
  rw [hmade, ← List.append_assoc] at hstaged
  rcases result with fault | _
  · -- the directory could not be made
    rw [within_of_unmade haccepts _ hmade]
    exact hgrown.spared fun old hold => (hstaged old hold).2 (by simp)
  have hwalk := walk_directory hbase hleads hmade
  rw [← List.append_assoc here] at hwalk
  have hcases := replace_cases bundle hleads hwalk content
  rw [within_of_made haccepts _ hmade]
  generalize bundle.replace grown (Path.join bundle.root path) content = written at hcases ⊢
  rcases hcases with ⟨fault, hfault, rfl⟩ | ⟨hfault, ⟨fault, -, rfl⟩ | ⟨-, rfl⟩⟩
  · -- the staging file could not be opened; if there is one, then the directory was there as well
    refine hgrown.spared fun old hold => ?_
    obtain rfl := (hstaged old hold).1
    have hstagingPath := (@leads_stagingPath bundle _ _ _ _ hleads).components_eq
    rw [← List.append_assoc] at hstagingPath
    exact File.tooLong_of_openFault? hsound hstagingPath hwalk hold hfault
  · -- the staging file could not be moved
    obtain ⟨htext, -, hfree⟩ := File.free_of_openFault? hfault
    exact hgrown.spared_cleared (File.length_lt_of_textFault? htext) hfree content
  · exact ⟨rfl, hgrown.delivered (File.Tree.Open.root.walk hwalk) content⟩

/-- A path below a directory whose own path is too long. -/
theorem write_of_tooLong (bundle : Bundle) (tree : Tree) (content : Bytes)
    (haccepts : accepts path = true)
    (hlong : pathLimit ≤
      (Utf8.encode (bundle.directoryOf (Path.join bundle.root path))).length) :
    ∃ fault, bundle.write tree path content = (.error fault, tree) := by
  have hempty : bundle.directoryOf (Path.join bundle.root path) ≠ "" := by
    intro heq
    rw [heq] at hlong
    exact absurd hlong (by decide)
  cases htext : textFault? (bundle.directoryOf (Path.join bundle.root path)) with
  | none =>
      have hshort := File.length_lt_of_textFault? htext
      omega
  | some fault =>
      exact ⟨_, within_of_unmade haccepts _ (File.createAll_of_fault hempty htext tree)⟩

/-! ### A staging file that was left

It may be there because somebody else made it, or because a write was interrupted. -/

/-- A bundle in which a staging file was left. -/
def leftover : Tree :=
  ((Tree.empty.insert ["b"] .directory).insert ["b", "d"] .directory).insert
    ["b", "d", ".a.partial"] (.file [111])

theorem leftover_sound : leftover.Sound := by
  have hroot : (Tree.empty.insert ["b"] .directory).Sound :=
    @File.Tree.Sound.insert _ [] "b" .empty rfl (by decide) (by decide) (by decide) _
  have hinner : ((Tree.empty.insert ["b"] .directory).insert ["b", "d"] .directory).Sound :=
    @File.Tree.Sound.insert _ ["b"] "d" hroot rfl (by decide) (by decide) (by decide) _
  exact @File.Tree.Sound.insert _ ["b", "d"] ".a.partial" hinner rfl (by decide) (by decide)
    (by decide) _

/-- The theorem at a path that ends with a slash: the staging file that was left is truncated and
cannot be moved, and is gone in the end. -/
theorem write_atomic_leftover :
    leftover.Sound ∧ leftover.LiesAt "/b" ["b"] ∧
      (write ⟨"/b"⟩ leftover "d/a/" [120]).1.toBool = false ∧
      (write ⟨"/b"⟩ leftover "d/a/" [120]).2.find? ["b", "d", "a"] = none ∧
      (write ⟨"/b"⟩ leftover "d/a/" [120]).2.find? ["b", "d", ".a.partial"] = none := by
  have hlies : leftover.LiesAt "/b" ["b"] := File.liesAt_of_components (by decide)
  have hfailed : (write ⟨"/b"⟩ leftover "d/a/" [120]).1.toBool = false := by decide +kernel
  obtain ⟨around, name, hpath, hwrite⟩ :=
    (write_atomic ⟨"/b"⟩ leftover ["b"] "d/a/" [120] leftover_sound hlies).2 (by decide)
  obtain ⟨rfl, hname⟩ : around = ["d"] ∧ [name] = ["a"] := by
    have hcomponents : ["d"] ++ ["a"] = around ++ [name] := hpath
    obtain ⟨haround, hlast⟩ := List.append_inj' hcomponents rfl
    exact ⟨haround.symm, hlast.symm⟩
  obtain rfl := (List.cons.inj hname).1
  refine ⟨leftover_sound, hlies, hfailed, ?_⟩
  generalize write ⟨"/b"⟩ leftover "d/a/" [120] = written at hfailed hwrite ⊢
  obtain ⟨_ | full, after⟩ := written
  · exact ⟨hwrite.file, hwrite.staging⟩
  · cases hfailed

/-- Slashes that lead nowhere. -/
def slashes (count : Nat) : String := String.ofList (List.replicate count '/')

theorem slashes_succ (count : Nat) : slashes (count + 1) = slashes count ++ "/" := by
  rw [← String.toList_inj, String.toList_append]
  simp [slashes, List.replicate_succ']

theorem components_slashes (front : String) (count : Nat) (rest : String) :
    components (front ++ slashes (count + 1) ++ rest) = components front ++ components rest := by
  induction count generalizing rest with
  | zero => exact Path.components_append_slash front rest
  | succ count ih =>
      have hslash : components ("/" ++ rest) = components rest :=
        Path.components_append_slash "" rest
      have hmoved : front ++ slashes (count + 1 + 1) ++ rest =
          front ++ slashes (count + 1) ++ ("/" ++ rest) := by
        rw [slashes_succ (count + 1), ← String.toList_inj]
        simp [String.toList_append]
      rw [hmoved, ih, hslash]

theorem steps_slashes (count : Nat) (rest : String) :
    Path.steps (slashes count ++ rest) = Path.steps rest := by
  induction count generalizing rest with
  | zero => rw [show slashes 0 = "" from rfl, String.empty_append]
  | succ count ih => rw [slashes_succ, String.append_assoc, ih, Path.steps_slash_append]

theorem length_encode_slashes (count : Nat) : (Utf8.encode (slashes count)).length = count := by
  induction count with
  | zero => rfl
  | succ count ih =>
      rw [slashes_succ, Utf8.encode_append, List.length_append, ih]
      rfl

/-- The directory around a file whose path has many slashes in it. -/
theorem directoryOf_slashes (count : Nat) :
    directoryOf ⟨"/b"⟩ (Path.join "/b" ("." ++ slashes (count + 1) ++ "d/a")) =
      "/b/." ++ slashes count ++ "/" ++ "d" := by
  have hrelative : Path.isAbsolute ("." ++ slashes (count + 1) ++ "d/a") = false := by
    rw [String.append_assoc, Path.isAbsolute_append_of_ne_empty (by decide)]
    rfl
  have hfull : Path.join "/b" ("." ++ slashes (count + 1) ++ "d/a") =
      "/b/." ++ slashes count ++ "/" ++ "d" ++ "/" ++ "a" := by
    unfold Path.join
    rw [if_neg (by simp [hrelative]), if_neg (by decide), slashes_succ]
    rw [← String.toList_inj]
    simp [String.toList_append]
  have hfront : "/b/." ++ slashes count ≠ "" := by
    intro heq
    have htexts := congrArg String.toList heq
    simp [String.toList_append] at htexts
  unfold directoryOf
  rw [hfull, Path.parent?_append hfront (by decide) (by decide), Option.getD_some]

/-- Without the condition on its length the staging file is not always gone: a path with this many
slashes in it is refused at the directory, and what lay in the way of the staging file stays. -/
theorem write_keeps_leftover :
    leftover.Sound ∧ leftover.LiesAt "/b" ["b"] ∧ accepts ("." ++ slashes 4096 ++ "d/a") = true ∧
      (write ⟨"/b"⟩ leftover ("." ++ slashes 4096 ++ "d/a") [120]).1.toBool = false ∧
      (write ⟨"/b"⟩ leftover ("." ++ slashes 4096 ++ "d/a") [120]).2.find?
        ["b", "d", ".a.partial"] = some (.file [111]) := by
  have haccepts : accepts ("." ++ slashes 4096 ++ "d/a") = true := by
    refine accepts_iff.2 ⟨?_, ?_⟩
    · rw [String.append_assoc, Path.isAbsolute_append_of_ne_empty (by decide)]
      rfl
    · rw [components_slashes]
      decide
  have hlong : pathLimit ≤ (Utf8.encode (directoryOf ⟨"/b"⟩
      (Path.join "/b" ("." ++ slashes 4096 ++ "d/a")))).length := by
    rw [directoryOf_slashes 4095]
    simp only [Utf8.encode_append, List.length_append, length_encode_slashes]
    decide
  obtain ⟨fault, hwrite⟩ := write_of_tooLong ⟨"/b"⟩ leftover [120] haccepts hlong
  refine ⟨leftover_sound, File.liesAt_of_components (by decide), haccepts, ?_⟩
  rw [hwrite]
  exact ⟨rfl, rfl⟩

end Bundle

end ClusterBundle
