import ClusterBundle.Proofs.Bundle.Atomic

/-!
Making a directory of a bundle and writing files into it.

A directory can be made if the text of its path can be used, its names are not too long, and no file
is in its place or on the way to it. All that changes are the directories on the way that were
missing. A file in a directory that is there either gets its content or nothing changes at all, as
long as nothing is in the place of its staging file.
-/

namespace ClusterBundle

open File (Place Tree walk textFault? isTooLong LeadsDown)
open File.Access (Leads placesBy)
open ClusterBundle.Path (components EndsPlain IsName)

namespace File

variable {tree : Tree} {here : Place} {names : List String} {fault : IoFault}

/-- Where no file is in the way, a walk can only fail for something that is missing. -/
theorem walk_notFound_of_free (hdown : ∀ name ∈ names, LeadsDown name)
    (hshort : ∀ name ∈ names, isTooLong name = false)
    (hfree : ∀ front, front <+: names → ∀ content,
      tree.find? (here ++ front) ≠ some (.file content))
    (h : walk tree here names = .error fault) : fault = .notFound := by
  induction names generalizing here with
  | nil => cases h
  | cons name rest ih =>
      obtain ⟨hname, hrest⟩ := List.forall_mem_cons.1 hdown
      obtain ⟨hlength, hlengths⟩ := List.forall_mem_cons.1 hshort
      simp only [walk, if_neg hname.1, if_neg hname.2, hlength, Bool.false_eq_true, if_false] at h
      cases hfound : tree.find? (here ++ [name]) with
      | none =>
          rw [hfound] at h
          cases h
          rfl
      | some entry =>
          cases entry with
          | file content => exact absurd hfound (hfree [name] ⟨rest, rfl⟩ content)
          | directory =>
              rw [hfound] at h
              refine ih hrest hlengths (fun front hfront content => ?_) h
              rw [List.append_assoc]
              exact hfree (name :: front) (List.cons_prefix_cons.2 ⟨rfl, hfront⟩) content

end File

namespace Bundle

variable {bundle : Bundle} {tree grown : Tree} {root place : Place} {path name : String}
  {around : List String} {content : Bytes} {fault : IoFault} {result : Except IoFault Unit}

/-- A name that can be that of a file beside others: it neither leads up nor is that of a staging
file. -/
def IsPlainName (name : String) : Prop := IsName name ∧ name.toList.head? ≠ some '.'

instance (name : String) : Decidable (IsPlainName name) := inferInstanceAs (Decidable (_ ∧ _))

theorem components_join_plain (directory : String) (hname : IsPlainName name) :
    components (Path.join directory name) = components directory ++ [name] := by
  rw [Path.components_join _ _ (Path.not_isAbsolute_of_isPiece hname.1.1),
    hname.1.components_eq]

theorem accepts_join {directory : String} (h : accepts directory = true)
    (hname : IsPlainName name) : accepts (Path.join directory name) = true := by
  obtain ⟨hrelative, -, hup⟩ := accepts_iff.1 h
  refine accepts_iff.2 ⟨?_, ?_, ?_⟩
  · exact Path.not_isAbsolute_join hrelative (Path.not_isAbsolute_of_isPiece hname.1.1)
  · simp [components_join_plain directory hname]
  · rw [components_join_plain directory hname, List.mem_append, not_or]
    refine ⟨hup, fun hsame => hname.2 ?_⟩
    rw [← List.mem_singleton.1 hsame]
    rfl

theorem Furnished.kept (h : Furnished tree grown root)
    (hplace : tree.find? place = some .directory) : grown.find? place = some .directory := by
  rcases h place with hsame | ⟨-, hnone, -⟩
  · rw [hsame, hplace]
  · rw [hplace] at hnone
    cases hnone

theorem Furnished.file (h : Furnished tree grown root)
    (hplace : grown.find? place = some (.file content)) :
    tree.find? place = some (.file content) := by
  rcases h place with hsame | ⟨-, -, hmade⟩
  · rw [← hsame, hplace]
  · rw [hplace] at hmade
    cases hmade

section

variable (hroot : walk tree [] (components bundle.root) = .ok root)
  (haccepts : accepts path = true)

include hroot haccepts

/-- Making a directory changes nothing but what is missing on the way to it. -/
theorem furnished_directory
    (h : File.createAll tree (Path.join bundle.root path) = (result, grown)) :
    Furnished tree grown (root ++ components path) := by
  have hchange := File.Access.change_performAll
    (File.fits_createAllAccesses hroot (@leads_join bundle.root path haccepts)) hroot
  rw [File.performAll_createAllAccesses, h] at hchange
  intro place
  have hfile : ¬ placesBy root (fun _ => False) place := by
    rintro ⟨_, hfalse, -⟩
    exact hfalse
  rcases hchange.off place hfile with hsame | ⟨⟨names, hnames, rfl⟩, hnone, hmade⟩
  · exact .inl hsame
  · exact .inr ⟨(List.prefix_append_right_inj root).2 hnames, hnone, hmade⟩

section

variable (hclosed : tree.Closed) (hplain : EndsPlain path)
  (htext : textFault? (Path.join bundle.root path) = none)
  (hshort : ∀ name ∈ components path, isTooLong name = false)
  (hfree : ∀ front, front <+: components path → ∀ content,
    tree.find? (root ++ front) ≠ some (.file content))

include hclosed hplain htext hshort hfree

/-- None of the reasons for which a directory is not made applies. -/
theorem createAll_of_free :
    File.createAll tree (Path.join bundle.root path) ≠ (.error fault, grown) := by
  intro hmade
  have hgrown := furnished_directory hroot haccepts hmade
  have hwalk : walk grown [] (components bundle.root) = .ok root :=
    File.walk_kept (fun _ => hgrown.kept) hroot
  have hleads := @leads_join bundle.root path haccepts
  obtain ⟨hrelative, hnames, -⟩ := accepts_iff.1 haccepts
  obtain ⟨-, ⟨hfault, -⟩ | ⟨-, front, name, hpath, hblocked⟩⟩ := File.blocked_of_createAll
    hclosed hroot hleads (hplain.join hrelative hnames _) hmade
  · rw [htext] at hfault
    cases hfault
  have hway : front <+: components path := ⟨[name], hpath.symm⟩
  have hdown : ∀ other ∈ front, LeadsDown other :=
    fun other hother => hleads.down other (hway.subset hother)
  cases hblocked with
  | around h hfault =>
      rw [File.walk_append_of_ok hwalk] at h
      refine hfault (File.walk_notFound_of_free hdown
        (fun other hother => hshort other (hway.subset hother)) (fun inner hinner => ?_) h)
      exact fun content hfile => hfree inner (hinner.trans hway) content (hgrown.file hfile)
  | long h hlong =>
      have hlength := hshort name (by rw [hpath]; simp)
      rw [hlong] at hlength
      cases hlength
  | file h hlength hfound =>
      rw [File.walk_append_of_ok hwalk] at h
      rw [File.walk_down hdown h, List.append_assoc, ← hpath] at hfound
      exact hfree _ (List.prefix_refl _) _ (hgrown.file hfound)

/-- A directory that can be made: afterwards it is there, with all around it. -/
theorem createDirectory_of_free :
    Furnished tree (bundle.createDirectory tree path).2 (root ++ components path) ∧
      (bundle.createDirectory tree path).2.Open (root ++ components path) := by
  have hleads := @leads_join bundle.root path haccepts
  rcases hmade : File.createAll tree (Path.join bundle.root path) with ⟨fault | _, grown⟩
  · exact absurd hmade (createAll_of_free hroot haccepts hclosed hplain htext hshort hfree)
  have hgrown := furnished_directory hroot haccepts hmade
  have hcreate : (bundle.createDirectory tree path).2 = grown := by
    simp only [createDirectory, resolve_of_accepts bundle haccepts, hmade]
  rw [hcreate]
  refine ⟨hgrown, ?_⟩
  obtain ⟨-, place, hwalk⟩ := File.walk_of_createAll hmade
  have hthere := hwalk
  rw [hleads.components_eq, File.walk_append_of_ok
    (File.walk_kept (fun _ => hgrown.kept) hroot)] at hthere
  rw [← File.walk_down hleads.down hthere]
  exact File.Tree.Open.root.walk hwalk

end

/-- A file in a directory that is there gets its content, or nothing changes. -/
theorem write_of_open (hsound : tree.Sound) (hpath : components path = around ++ [name])
    (hopen : tree.Open (root ++ around))
    (hstaging : tree.find? (root ++ around ++ [stagingName name]) = none) (content : Bytes) :
    match bundle.write tree path content with
    | (.ok _, after) => ∀ place, after.find? place =
        if place = root ++ around ++ [name] then some (.file content) else tree.find? place
    | (.error _, after) => ∀ place, after.find? place = tree.find? place := by
  have hlies : tree.LiesAt bundle.root root :=
    ⟨bundle.root, root, [], hroot, ⟨(List.append_nil _).symm, by simp, id⟩,
      (List.append_nil _).symm⟩
  obtain ⟨front, last, hspelled, hwrite⟩ :=
    (write_atomic bundle tree root path content hsound hlies).2 haccepts
  obtain ⟨rfl, hlast⟩ := List.append_inj' (hpath.symm.trans hspelled) rfl
  obtain rfl := (List.cons.inj hlast).1
  generalize bundle.write tree path content = written at hwrite ⊢
  rcases written with ⟨fault | full, after⟩
  · intro place
    by_cases hstaged : place = root ++ around ++ [stagingName name]
    · rw [hstaged, hwrite.staging, hstaging]
      exact ite_self none
    · rcases hwrite.others place hstaged with hsame | ⟨haround, hnone, -⟩
      · exact hsame
      · rw [hopen place haround] at hnone
        cases hnone
  · obtain ⟨-, hdelivered⟩ := hwrite
    intro place
    by_cases hfile : place = root ++ around ++ [name]
    · rw [if_pos hfile, hfile, hdelivered.file]
    rw [if_neg hfile]
    by_cases hstaged : place = root ++ around ++ [stagingName name]
    · rw [hstaged, hdelivered.staging, hstaging]
    by_cases haround : place <+: root ++ around
    · rw [(hdelivered.ancestors place haround).1, hopen place haround]
    · exact hdelivered.others place haround hfile hstaged

end

end Bundle

end ClusterBundle
