import ClusterBundle.Proofs.Bundle.Settle
import ClusterBundle.Proofs.File.Nested

/-!
Putting something into a bundle again.

What an operation on a bundle came to is decided by the texts of its paths and by which of a few
places are directories. None of this is another in a tree that has grown since then, so the
operation comes to the same there. All that it does the second time is to give the file its content:
the directories are made, and no staging file is left.
-/

namespace ClusterBundle

open File (Place Tree walk textFault? isTooLong openFault? Blocked)
open File.Access (Leads)
open ClusterBundle.Path (components EndsPlain endsWithSlash)
open Collect (Mode)

/-! ### Directories -/

namespace File

variable {tree grown after : Tree} {root : Place} {base path name : String}
  {names : List String} {fault : IoFault} {result : Except IoFault Unit}

/-- What is blocked stays blocked. -/
theorem Blocked.stays {base front : List String} (h : Blocked tree (base ++ front) name fault)
    (hroot : walk tree [] base = .ok root) (hgrown : tree.Grown after)
    (hnames : ∀ n ∈ front ++ [name], IsLasting n) : Blocked after (base ++ front) name fault := by
  have hfront : ∀ n ∈ front, IsLasting n := fun n hn => hnames n (List.mem_append_left _ hn)
  cases h with
  | around hwalk hfault =>
      rw [walk_append_of_ok hroot] at hwalk
      refine .around ?_ hfault
      rw [walk_append_of_ok (hgrown.walk hroot)]
      exact hgrown.walk_error hfront hwalk hfault
  | long hwalk hlong => exact .long (hgrown.walk hwalk) hlong
  | file hwalk hshort hfound =>
      obtain ⟨content, hfile⟩ := hgrown.file hfound (not_isStaged (hnames name (by simp)))
      exact .file (hgrown.walk hwalk) hshort hfile

variable (hroot : walk tree [] (components base) = .ok root) (hleads : Leads base path names)
  (hnames : ∀ n ∈ names, IsLasting n)

include hroot hleads hnames

/-- Making a directory does nothing to the places that are there. -/
theorem createAll_aside (place : Place) :
    Aside place (tree.find? place) ((createAll tree path).2.find? place) := by
  have hchange := Access.change_performAll (fits_createAllAccesses hroot hleads) hroot
  rw [performAll_createAllAccesses] at hchange
  rcases hchange.off place (by rintro ⟨_, hfile, -⟩; exact hfile) with
    hsame | ⟨⟨front, hfront, rfl⟩, hnone, hmade⟩
  · rw [hsame]
    exact .same _
  · rw [hnone, hmade]
    refine .made ?_
    rcases List.eq_nil_or_concat front with rfl | ⟨outer, last, rfl⟩
    · -- the directory itself is there
      have hthere := (Tree.Open.root.walk hroot).directory
      rw [List.append_nil, hthere] at hnone
      cases hnone
    · rw [List.concat_eq_append, ← List.append_assoc]
      exact not_isStaged (hnames last (hfront.subset (by simp)))

/-- Making a directory again comes to the same, and nothing is made. -/
theorem createAll_again (hclosed : tree.Closed) (hplain : EndsPlain path)
    (h : createAll tree path = (result, grown)) (hafter : grown.Grown after) :
    createAll after path = (result, after) := by
  cases result with
  | ok _ =>
      obtain ⟨htext, place, hwalk⟩ := walk_of_createAll h
      obtain ⟨hsame, hok⟩ := createAll_of_walked (hafter.walk hwalk)
      exact Prod.ext (hok.2 htext) hsame
  | error fault =>
      obtain ⟨hempty, ⟨htext, -⟩ | ⟨htext, front, name, rfl, hblocked⟩⟩ :=
        blocked_of_createAll hclosed hroot hleads hplain h
      · exact createAll_of_fault hempty htext after
      · have hmade : tree.Grown grown := by
          refine .of_aside fun place => ?_
          have haside := createAll_aside hroot hleads hnames place
          rwa [h] at haside
        have hpath := hleads.1
        rw [← List.append_assoc] at hpath
        exact createAll_of_blocked hplain hpath (hleads.2 name (by simp)) htext
          (hblocked.stays (hmade.walk hroot) hafter hnames)

end File

namespace Bundle

variable {bundle : Bundle} {tree grown after : Tree} {root : Place} {output name : String}
  {around : List String} {mode : Mode} {content : Bytes} {result : Except Fault String}

/-! ### Files in a bundle -/

/-- A path that a bundle accepts, that ends with the name of a file, and that has nothing to do with
staging files. -/
structure Tidy (path : String) : Prop where
  accepts : accepts path = true
  plain : EndsPlain path
  slash : endsWithSlash path = false
  lasting : ∀ name ∈ components path, IsLasting name

section

variable (htidy : Tidy output) (hroot : walk tree [] (components bundle.root) = .ok root)

include htidy

theorem Tidy.spelled : ∃ around name, components output = around ++ [name] :=
  components_of_accepts htidy.accepts

theorem Tidy.not_isStaged : ¬ IsStaged (root ++ components output) := by
  obtain ⟨around, name, hpath⟩ := htidy.spelled
  rw [hpath, ← List.append_assoc]
  exact ClusterBundle.not_isStaged (htidy.lasting name (by simp [hpath]))

theorem Tidy.resolve : bundle.resolve output = .ok (Path.join bundle.root output) :=
  resolve_of_accepts bundle htidy.accepts

theorem Tidy.join_plain (base : String) :
    EndsPlain (Path.join base output) ∧ endsWithSlash (Path.join base output) = false := by
  obtain ⟨hrelative, hnames, -⟩ := accepts_iff.1 htidy.accepts
  have hempty : output ≠ "" := by
    rintro rfl
    exact hnames rfl
  exact ⟨htidy.plain.join hrelative hnames base,
    (Path.endsWithSlash_join hempty base).trans htidy.slash⟩

include hroot

/-- Something is put into a bundle in two steps: the directory around the file is made, and then the
file gets its content. -/
theorem put_cases (hpath : components output = around ++ [name])
    (h : mode.put output content bundle tree = (result, grown)) :
    (∃ fault, File.createAll tree (bundle.directoryOf (Path.join bundle.root output)) =
        (.error fault, grown) ∧
      result = .error (.io (bundle.directoryOf (Path.join bundle.root output)) fault)) ∨
      ∃ made, File.createAll tree (bundle.directoryOf (Path.join bundle.root output)) =
          (.ok (), made) ∧
        walk made [] (components bundle.root ++ around) = .ok (root ++ around) ∧
        mode.settle bundle made (Path.join bundle.root output) content = (result, grown) := by
  have hleads : Leads bundle.root (Path.join bundle.root output) (around ++ [name]) :=
    hpath ▸ leads_join htidy.accepts
  have hdirectory := @leads_directoryOf bundle _ _ _ _ hleads
  rw [Collect.Mode.put_eq_within, within, htidy.resolve] at h
  dsimp only at h
  rcases hmade : File.createAll tree (bundle.directoryOf (Path.join bundle.root output)) with
    ⟨_ | _, made⟩
  · rw [hmade] at h
    cases h
    exact .inl ⟨_, rfl, rfl⟩
  · rw [hmade] at h
    refine .inr ⟨made, rfl, ?_, h⟩
    obtain ⟨-, place, hwalk⟩ := File.walk_of_createAll hmade
    have hmadeRoot := (createAll_content? hroot hdirectory).2
    rw [hmade] at hmadeRoot
    rw [hdirectory.1, File.walk_append_of_ok hmadeRoot] at hwalk
    rw [File.walk_append_of_ok hmadeRoot, hwalk, File.walk_down hdirectory.2 hwalk]

/-- Putting something into a bundle makes the tree grow, and what it comes to is seen at the place
of the file alone. -/
theorem put_grown (h : mode.put output content bundle tree = (result, grown)) :
    tree.Grown grown ∧
      (∀ place, (result.toBool = true → place ≠ root ++ components output) →
        Aside place (tree.find? place) (grown.find? place)) ∧
      (result.toBool = true → grown.find? (root ++ components output) =
        some (.file (mode.merge (tree.content? (root ++ components output)) content))) := by
  obtain ⟨around, name, hpath⟩ := htidy.spelled
  have hlasting := hpath ▸ htidy.lasting
  have hleads : Leads bundle.root (Path.join bundle.root output) (around ++ [name]) :=
    hpath ▸ leads_join htidy.accepts
  have hdirectory := @leads_directoryOf bundle _ _ _ _ hleads
  have haside := File.createAll_aside hroot hdirectory
    fun n hn => hlasting n (List.mem_append_left _ hn)
  obtain ⟨hplain, hslash⟩ := htidy.join_plain bundle.root
  rcases put_cases htidy hroot hpath h with ⟨fault, hmade, rfl⟩ | ⟨made, hmade, hwalk, hsettled⟩
  · rw [hmade] at haside
    exact ⟨.of_aside haside, fun place _ => haside place, fun hok => by cases hok⟩
  · have hcontent := (createAll_content? hroot hdirectory).1
    rw [hmade] at haside hcontent
    have hgrown := settle_grown bundle hleads hplain hslash hwalk (hlasting name (by simp)) mode
      content
    have hok := settle_toBool bundle hleads hplain hslash hwalk mode content
    rw [hsettled] at hgrown hok
    have hplace : root ++ components output = root ++ around ++ [name] := by
      rw [hpath, List.append_assoc]
    rw [hplace]
    have hmadeGrown := File.Tree.Grown.of_aside haside
    refine ⟨hmadeGrown.trans hgrown, fun place hother => ?_, fun hresult => ?_⟩
    · have hlast := settle_aside bundle hleads hplain hslash hwalk content
        fun hfault => hother (hok.2 hfault)
      rw [hsettled] at hlast
      exact (haside place).trans hlast
    · have hfilled := (settle_fills bundle hleads hplain hslash hwalk (hok.1 hresult) content).2
      rwa [hsettled, hcontent] at hfilled

/-- What is put there decides nothing but what the file holds. -/
theorem put_other (h : mode.put output content bundle tree = (result, grown)) (again : Bytes) :
    (mode.put output again bundle tree).1 = result ∧
      ∀ place, (result.toBool = true → place ≠ root ++ components output) →
        (mode.put output again bundle tree).2.find? place = grown.find? place := by
  obtain ⟨around, name, hpath⟩ := htidy.spelled
  have hleads : Leads bundle.root (Path.join bundle.root output) (around ++ [name]) :=
    hpath ▸ leads_join htidy.accepts
  obtain ⟨hplain, hslash⟩ := htidy.join_plain bundle.root
  rw [Collect.Mode.put_eq_within, within, htidy.resolve]
  dsimp only
  rcases put_cases htidy hroot hpath h with ⟨fault, hmade, rfl⟩ | ⟨made, hmade, hwalk, hsettled⟩
  · rw [hmade]
    exact ⟨rfl, fun _ _ => rfl⟩
  · obtain ⟨hresult, hplaces⟩ := settle_of_leads bundle hleads hplain hslash hwalk mode content
    obtain ⟨hagain, hplacesAgain⟩ :=
      settle_of_leads bundle hleads hplain hslash hwalk mode again
    have hok := settle_toBool bundle hleads hplain hslash hwalk mode content
    rw [hsettled] at hresult hplaces hok
    rw [hmade]
    dsimp only at hresult hplaces hok ⊢
    refine ⟨hagain.trans hresult.symm, fun place hplace => ?_⟩
    have hother : ¬ (settleFault? mode bundle made (Path.join bundle.root output) (root ++ around)
        name = none ∧ place = root ++ around ++ [name]) := by
      rintro ⟨hfault, rfl⟩
      exact hplace (hok.2 hfault) (by rw [hpath, List.append_assoc])
    rw [hplaces, hplacesAgain, if_neg hother, if_neg hother]

/-- Putting something there again comes to the same, and does nothing but to give the file its
content. -/
theorem put_again (hclosed : tree.Closed)
    (h : mode.put output content bundle tree = (result, grown)) (hafter : grown.Grown after)
    (again : Bytes) :
    (mode.put output again bundle after).1 = result ∧
      ∀ place, (mode.put output again bundle after).2.find? place =
        if result.toBool = true ∧ place = root ++ components output then
          some (.file (mode.merge (after.content? (root ++ components output)) again))
        else after.find? place := by
  obtain ⟨around, name, hpath⟩ := htidy.spelled
  have hlasting := hpath ▸ htidy.lasting
  have hleads : Leads bundle.root (Path.join bundle.root output) (around ++ [name]) :=
    hpath ▸ leads_join htidy.accepts
  have hdirectory := @leads_directoryOf bundle _ _ _ _ hleads
  have haround : ∀ n ∈ around, IsLasting n := fun n hn =>
    hlasting n (List.mem_append_left _ hn)
  have hends := @endsPlain_directoryOf bundle _ _ _ _ hleads
  obtain ⟨hplain, hslash⟩ := htidy.join_plain bundle.root
  rw [Collect.Mode.put_eq_within, within, htidy.resolve]
  dsimp only
  rcases put_cases htidy hroot hpath h with ⟨fault, hmade, rfl⟩ | ⟨made, hmade, hwalk, hsettled⟩
  · rw [File.createAll_again hroot hdirectory haround hclosed hends hmade hafter]
    exact ⟨rfl, fun place => by simp [Except.toBool]⟩
  · have hname := hlasting name (by simp)
    have hgrown := settle_grown bundle hleads hplain hslash hwalk hname mode content
    have hok := settle_toBool bundle hleads hplain hslash hwalk mode content
    have hlast := settle_again bundle hleads hplain hslash hwalk hname (by rwa [hsettled]) again
    rw [hsettled] at hgrown hok hlast
    rw [File.createAll_again hroot hdirectory haround hclosed hends hmade (hgrown.trans hafter)]
    refine ⟨hlast.1, fun place => ?_⟩
    rw [hlast.2, hpath, ← List.append_assoc]
    simp only [hok]

/-! ### Directories in a bundle -/

theorem createDirectory_aside (place : Place) :
    Aside place (tree.find? place) ((bundle.createDirectory tree output).2.find? place) := by
  have haside := File.createAll_aside hroot (leads_join htidy.accepts) htidy.lasting place
  rw [createDirectory, htidy.resolve]
  dsimp only
  rcases hmade : File.createAll tree (Path.join bundle.root output) with ⟨_ | _, made⟩ <;>
    rwa [hmade] at haside

theorem createDirectory_again (hclosed : tree.Closed)
    (h : bundle.createDirectory tree output = (result, grown)) (hafter : grown.Grown after) :
    bundle.createDirectory after output = (result, after) := by
  rw [createDirectory, htidy.resolve] at h ⊢
  dsimp only at h ⊢
  have hplain := (htidy.join_plain bundle.root).1
  rcases hmade : File.createAll tree (Path.join bundle.root output) with ⟨_ | _, made⟩ <;>
    · rw [hmade] at h
      cases h
      rw [File.createAll_again hroot (leads_join htidy.accepts) htidy.lasting hclosed hplain hmade
        hafter]

/-! ### Adding to a file that could not be emptied -/

/-- If the file can be opened at all, then so can its staging file. -/
structure Stageable (bundle : Bundle) (tree : Tree) (root : Place) (output : String)
    (around : List String) (name : String) : Prop where
  text : textFault? (Path.join bundle.root output) = none →
    textFault? (bundle.stagingPath (Path.join bundle.root output)) = none
  short : isTooLong (stagingName name) = false
  free : tree.find? (root ++ around ++ [stagingName name]) ≠ some .directory

omit htidy hroot in
theorem Stageable.stays (h : Stageable bundle tree root output around name)
    (hgrown : tree.Grown after) : Stageable bundle after root output around name :=
  ⟨h.text, h.short, fun hfound => h.free
    (((hgrown _).directory_iff_of_staged (isStaged_stagingName _ name)).1 hfound)⟩

omit htidy hroot in
/-- A file that is not kept from its content by its staging file gets it if it can be opened. -/
theorem Stageable.settleFault?_eq_none_iff (h : Stageable bundle tree root output around name) :
    settleFault? .replace bundle tree (Path.join bundle.root output) (root ++ around) name =
        none ↔
      openFault? tree (Path.join bundle.root output) (root ++ around) name = none := by
  rw [settleFault?, Option.or_eq_none_iff]
  refine ⟨And.right, fun hopen => ⟨?_, hopen⟩⟩
  rw [openFault?, h.text (File.free_of_openFault? hopen).1]
  dsimp only
  rw [h.short, if_neg (by simp), if_neg h.free]

/-- If a file cannot be replaced, and not because of its staging file, then from then on nothing can
be added to it either. -/
theorem append_of_write_error (hclosed : tree.Closed) (hpath : components output = around ++ [name])
    (hstageable : Stageable bundle tree root output around name) {fault : Fault}
    (h : bundle.write tree output content = (.error fault, grown)) (hafter : grown.Grown after)
    (again : Bytes) : ∃ fault, bundle.append after output again = (.error fault, after) := by
  have hlasting := hpath ▸ htidy.lasting
  have hleads : Leads bundle.root (Path.join bundle.root output) (around ++ [name]) :=
    hpath ▸ leads_join htidy.accepts
  have hdirectory := @leads_directoryOf bundle _ _ _ _ hleads
  have haround : ∀ n ∈ around, IsLasting n := fun n hn =>
    hlasting n (List.mem_append_left _ hn)
  have hends := @endsPlain_directoryOf bundle _ _ _ _ hleads
  have hname := hlasting name (by simp)
  obtain ⟨hplain, hslash⟩ := htidy.join_plain bundle.root
  rw [append, within, htidy.resolve]
  dsimp only
  rcases @put_cases _ _ _ _ _ _ _ .replace _ _ htidy hroot hpath h with
    ⟨reason, hmade, -⟩ | ⟨made, hmade, hwalk, hsettled⟩
  · rw [File.createAll_again hroot hdirectory haround hclosed hends hmade hafter]
    exact ⟨_, rfl⟩
  · have haside := File.createAll_aside hroot hdirectory haround
    have hgrown := settle_grown bundle hleads hplain hslash hwalk hname .replace content
    have hok := settle_toBool bundle hleads hplain hslash hwalk .replace content
    rw [hmade] at haside
    rw [hsettled] at hgrown hok
    have hmadeAfter := hgrown.trans hafter
    have hstaging := hstageable.stays (.of_aside haside)
    rw [File.createAll_again hroot hdirectory haround hclosed hends hmade hmadeAfter]
    dsimp only
    rw [extend_of_leads hleads hplain hslash (hmadeAfter.walk hwalk)]
    -- the file could not be opened either
    have hfault : openFault? made (Path.join bundle.root output) (root ++ around) name ≠ none := by
      intro hnone
      have hresult := hok.2 (hstaging.settleFault?_eq_none_iff.2 hnone)
      cases hresult
    obtain ⟨reason, hreason⟩ := Option.ne_none_iff_exists'.1 hfault
    rw [File.openFault?_stays hreason hmadeAfter]
    exact ⟨_, rfl⟩

end

end Bundle

end ClusterBundle
