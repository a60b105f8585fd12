import ClusterBundle.Proofs.Bundle.Atomic

/-!
What is refused for the sake of the staging file.

To replace a file and to add to it take the same way into the bundle: the same paths are accepted,
the same directories are made, and the file has to be one that can be opened. A file that is
replaced has to be staged besides. Its staging file has a longer name than the file itself and needs
a place of its own, so there are files that can be added to, or made by that, but not replaced.
-/

namespace ClusterBundle

open File (Place Tree walk textFault? isTooLong maxName pathLimit openFault? Opens)
open File.Access (Leads)
open ClusterBundle.Path (components)

namespace Bundle

variable {bundle : Bundle} {tree grown : Tree} {root parent : Place} {base full name path : String}
  {around : List String}

/-- A file at a path can be staged: there is room for the nine bytes that the name of its staging
file has besides its own, the path of the staging file is short enough, and its place is none of a
directory. -/
structure Stages (bundle : Bundle) (tree : Tree) (root : Place) (path : String) : Prop where
  short : (Utf8.encode ((components path).getLast?.getD "")).length + 9 ≤ maxName
  reached : (Utf8.encode (bundle.stagingPath (Path.join bundle.root path))).length < pathLimit
  free : tree.find? (root ++ (components path).dropLast ++
    [stagingName ((components path).getLast?.getD "")]) ≠ some .directory

theorem stages_iff (hpath : components path = around ++ [name]) :
    bundle.Stages tree root path ↔ (Utf8.encode name).length + 9 ≤ maxName ∧
      (Utf8.encode (bundle.stagingPath (Path.join bundle.root path))).length < pathLimit ∧
      tree.find? (root ++ around ++ [stagingName name]) ≠ some .directory := by
  have hname : (components path).getLast?.getD "" = name := by simp [hpath]
  have haround : (components path).dropLast = around := by simp [hpath]
  constructor
  · rintro ⟨hshort, hreached, hfree⟩
    rw [hname] at hshort hfree
    rw [haround] at hfree
    exact ⟨hshort, hreached, hfree⟩
  · rintro ⟨hshort, hreached, hfree⟩
    rw [← hname] at hshort hfree
    rw [← haround] at hfree
    exact ⟨hshort, hreached, hfree⟩

theorem isTooLong_stagingName (name : String) :
    isTooLong (stagingName name) = false ↔ (Utf8.encode name).length + 9 ≤ maxName := by
  have htext : stagingName name = "." ++ name ++ ".partial" := rfl
  have hdot : (Utf8.encode ".").length = 1 := by decide
  have hpartial : (Utf8.encode ".partial").length = 8 := by decide
  unfold isTooLong
  rw [htext, Utf8.encode_append, Utf8.encode_append, List.length_append, List.length_append, hdot,
    hpartial, decide_eq_false_iff_not]
  omega

/-- The path of a staging file has no characters but those of the path of the file and of its own
ends. So if the latter can be used then only its length is in the way of the former. -/
theorem textFault?_stagingPath (hleads : Leads base full (around ++ [name]))
    (htext : textFault? full = none) :
    textFault? (bundle.stagingPath full) = none ↔
      (Utf8.encode (bundle.stagingPath full)).length < pathLimit := by
  refine ⟨File.length_lt_of_textFault?, fun hshort => ?_⟩
  have hstaging := (@leads_stagingPath bundle _ _ _ _ hleads).components_eq
  have hfull := hleads.components_eq
  cases hfault : textFault? (bundle.stagingPath full) with
  | none => rfl
  | some fault =>
      rw [← List.append_assoc] at hstaging hfull
      have hlong := File.tooLong_of_clean ?_ (Path.ne_empty_of_components hstaging) hfault
      · omega
      intro other hother hnul
      have hclean : ∀ last ∈ components full, '\x00' ∉ last.toList :=
        fun last => File.clean_of_textFault? htext
      rw [hfull] at hclean
      rw [hstaging] at hother
      rcases List.mem_append.1 hother with hother | hother
      · exact hclean other (List.mem_append_left _ hother) hnul
      · rw [List.mem_singleton.1 hother, toList_stagingName] at hnul
        simp only [List.mem_cons, List.mem_append] at hnul
        rcases hnul with hnul | hnul | hnul
        · exact absurd hnul (by decide)
        · exact hclean name (by simp) hnul
        · exact absurd hnul (by decide)

theorem openFault?_stagingPath (hleads : Leads base full (around ++ [name]))
    (htext : textFault? full = none) :
    openFault? tree (bundle.stagingPath full) parent (stagingName name) = none ↔
      (Utf8.encode name).length + 9 ≤ maxName ∧
        (Utf8.encode (bundle.stagingPath full)).length < pathLimit ∧
        tree.find? (parent ++ [stagingName name]) ≠ some .directory := by
  rw [← textFault?_stagingPath hleads htext, ← isTooLong_stagingName]
  unfold openFault?
  cases textFault? (bundle.stagingPath full) <;> cases isTooLong (stagingName name) <;> simp

section

variable (bundle) {here : Place} {content : Bytes} (haccepts : accepts path = true)
  (hbase : walk tree [] (components base) = .ok here)
  (hleads : Leads base (Path.join bundle.root path) (around ++ [name]))

include haccepts hbase hleads

theorem write_toBool_iff :
    (bundle.write tree path content).1.toBool = true ↔
      ∃ grown, File.createAll tree (bundle.directoryOf (Path.join bundle.root path)) =
          (.ok (), grown) ∧
        openFault? grown (bundle.stagingPath (Path.join bundle.root path)) (here ++ around)
          (stagingName name) = none ∧
        Opens grown (Path.join bundle.root path) (here ++ around) name := by
  exact within_toBool_iff haccepts _ fun grown hmade =>
    replace_toBool_iff bundle hleads (walk_directory hbase hleads hmade) content

theorem append_toBool_iff :
    (bundle.append tree path content).1.toBool = true ↔
      ∃ grown, File.createAll tree (bundle.directoryOf (Path.join bundle.root path)) =
          (.ok (), grown) ∧
        Opens grown (Path.join bundle.root path) (here ++ around) name := by
  exact within_toBool_iff haccepts _ fun grown hmade =>
    extend_toBool hleads (walk_directory hbase hleads hmade) content

end

/-- A file can be replaced just if it can be added to and staged. -/
theorem write_iff_append (bundle : Bundle) (tree : Tree) (root : Place) (path : String)
    (content added : Bytes) (hroot : tree.LiesAt bundle.root root) :
    (bundle.write tree path content).1.toBool = true ↔
      (bundle.append tree path added).1.toBool = true ∧ bundle.Stages tree root path := by
  cases haccepts : accepts path with
  | false =>
      have hresolve : bundle.resolve path = .error (.outside path) := by simp [resolve, haccepts]
      simp [write, append, within, hresolve, Except.toBool]
  | true =>
      obtain ⟨around, name, hpath⟩ := components_of_accepts haccepts
      obtain ⟨base, here, names, hbase, hlies, rfl⟩ := hroot
      have hleads := leads_of_lies hlies haccepts
      rw [hpath, ← List.append_assoc] at hleads
      rw [write_toBool_iff bundle haccepts hbase hleads,
        append_toBool_iff bundle haccepts hbase hleads, stages_iff hpath]
      -- where the directory is there, staging is all that can make a difference
      have hstaging : ∀ grown, File.createAll tree
          (bundle.directoryOf (Path.join bundle.root path)) = (.ok (), grown) →
          Opens grown (Path.join bundle.root path) (here ++ (names ++ around)) name →
          (openFault? grown (bundle.stagingPath (Path.join bundle.root path))
              (here ++ (names ++ around)) (stagingName name) = none ↔
            (Utf8.encode name).length + 9 ≤ maxName ∧
              (Utf8.encode (bundle.stagingPath (Path.join bundle.root path))).length < pathLimit ∧
              tree.find? (here ++ names ++ around ++ [stagingName name]) ≠ some .directory) := by
        intro grown hmade hopens
        have htext := (File.free_of_openFault? hopens.free).1
        rw [openFault?_stagingPath hleads htext,
          (furnished_createAll hbase hleads hmade).below (stagingName name),
          ← List.append_assoc here names around]
      constructor
      · rintro ⟨grown, hmade, hfault, hopens⟩
        exact ⟨⟨grown, hmade, hopens⟩, (hstaging grown hmade hopens).1 hfault⟩
      · rintro ⟨⟨grown, hmade, hopens⟩, hstages⟩
        exact ⟨grown, hmade, (hstaging grown hmade hopens).2 hstages, hopens⟩

/-- The theorem at a file whose staging file was left: it is no directory, so the file can be
replaced because it can be added to. -/
theorem write_iff_append_leftover :
    leftover.LiesAt "/b" ["b"] ∧ (append ⟨"/b"⟩ leftover "d/a" [121]).1.toBool = true ∧
      Stages ⟨"/b"⟩ leftover ["b"] "d/a" ∧
      (write ⟨"/b"⟩ leftover "d/a" [120]).1.toBool = true := by
  have hlies : leftover.LiesAt "/b" ["b"] := File.liesAt_of_components (by decide)
  have happend : (append ⟨"/b"⟩ leftover "d/a" [121]).1.toBool = true := by decide +kernel
  have hstages : Stages ⟨"/b"⟩ leftover ["b"] "d/a" := by
    have hpath : components "d/a" = ["d"] ++ ["a"] := by decide
    exact (stages_iff hpath).2 ⟨by decide, by decide +kernel, by decide⟩
  exact ⟨hlies, happend, hstages,
    (write_iff_append ⟨"/b"⟩ leftover ["b"] "d/a" [120] [121] hlies).2 ⟨happend, hstages⟩⟩

/-- A name of some length. -/
def letters (count : Nat) : String := String.ofList (List.replicate count 'a')

theorem length_encode_letters (count : Nat) : (Utf8.encode (letters count)).length = count := by
  induction count with
  | zero => rfl
  | succ count ih =>
      have hsucc : letters (count + 1) = letters count ++ "a" := by
        rw [← String.toList_inj, String.toList_append]
        simp [letters, List.replicate_succ']
      rw [hsucc, Utf8.encode_append, List.length_append, ih]
      rfl

theorem letters_ne {text : String} (h : text.toList.head? ≠ some 'a') (count : Nat) :
    letters (count + 1) ≠ text := by
  rintro rfl
  exact h (by simp [letters, List.replicate_succ])

theorem isName_letters (count : Nat) : Path.IsName (letters (count + 1)) := by
  have hpiece : Path.IsPiece (letters (count + 1)) := by
    unfold Path.IsPiece letters
    rw [String.toList_ofList]
    simp
  have hempty := @letters_ne "" (by decide) count
  have hidle := @letters_ne "." (by decide) count
  exact ⟨hpiece, by simp [Path.isIdle, hempty, hidle]⟩

theorem accepts_letters (count : Nat) : accepts (letters (count + 1)) = true := by
  have hname := isName_letters count
  refine accepts_iff.2 ⟨Path.not_isAbsolute_of_isPiece hname.1, ?_, ?_⟩
  · rw [hname.components_eq]
    simp
  · rw [hname.components_eq, List.mem_singleton]
    exact (letters_ne (by decide) count).symm

theorem join_letters (count : Nat) :
    Path.join "/b/d" (letters (count + 1)) = "/b" ++ "/" ++ "d" ++ "/" ++ letters (count + 1) := by
  have hrelative := Path.not_isAbsolute_of_isPiece (isName_letters count).1
  rw [Path.join, if_neg (by rw [hrelative]; simp), if_neg (by decide)]
  rfl

theorem opens_letters {count : Nat} (h : count + 1 ≤ maxName) :
    Opens leftover (Path.join "/b/d" (letters (count + 1))) ["b", "d"] (letters (count + 1)) := by
  have hname := isName_letters count
  have hclean : ∀ name ∈ components (Path.join "/b/d" (letters (count + 1))),
      '\x00' ∉ name.toList := by
    rw [Path.components_join _ _ (Path.not_isAbsolute_of_isPiece hname.1), hname.components_eq]
    intro name hmem
    rcases List.mem_append.1 hmem with hmem | hmem
    · exact File.clean_of_textFault? (by decide : textFault? "/b/d" = none) hmem
    · rw [List.mem_singleton.1 hmem, letters, String.toList_ofList]
      simp
  have htext : textFault? (Path.join "/b/d" (letters (count + 1))) = none := by
    cases hfault : textFault? (Path.join "/b/d" (letters (count + 1))) with
    | none => rfl
    | some fault =>
        have hlong := File.tooLong_of_clean hclean (by rw [join_letters]; simp) hfault
        rw [join_letters, Utf8.encode_append, List.length_append, length_encode_letters] at hlong
        simp only [pathLimit, maxName] at h hlong
        have hfront : (Utf8.encode ("/b" ++ "/" ++ "d" ++ "/")).length = 5 := by decide
        omega
  have hshort : isTooLong (letters (count + 1)) = false := by
    unfold isTooLong
    rw [length_encode_letters]
    simpa using h
  have hplace : leftover.find? (["b", "d"] ++ [letters (count + 1)]) ≠ some .directory := by
    have hother := @letters_ne ".a.partial" (by decide) count
    unfold leftover
    rw [File.Tree.find?_insert_of_ne (by simp), if_neg (by simpa using hother),
      File.Tree.find?_insert_of_ne (by simp), if_neg (by simp),
      File.Tree.find?_insert_of_ne (by simp), if_neg (by simp)]
    simp [Tree.find?, Tree.empty]
  refine ⟨Path.endsPlain_join hname.1 hname.2 _,
    Path.not_endsWithSlash_join hname.1 (letters_ne (by decide) count) _, ?_⟩
  simp only [openFault?, htext, hshort, Bool.false_eq_true, if_false, if_neg hplace]

/-- The two do not accept the same: a name can be short enough for a file and too long for its
staging file. -/
theorem write_refuses_long_name :
    accepts (letters 250) = true ∧ (Utf8.encode (letters 250)).length ≤ maxName ∧
      (append ⟨"/b/d"⟩ leftover (letters 250) [120]).1.toBool = true ∧
      (write ⟨"/b/d"⟩ leftover (letters 250) [120]).1.toBool = false := by
  have hname : Path.IsName (letters 250) := isName_letters 249
  have haccepts : accepts (letters 250) = true := accepts_letters 249
  have hdirectory : directoryOf ⟨"/b/d"⟩ (Path.join "/b/d" (letters 250)) = "/b/d" := by
    rw [directoryOf, join_letters 249, Path.parent?_append (by decide) (by decide) hname]
    rfl
  have hlong : isTooLong (stagingName (letters 250)) = true := by
    rw [← Bool.not_eq_false, isTooLong_stagingName, length_encode_letters]
    decide
  have hbase : walk leftover [] (components "/b/d") = .ok ["b", "d"] := rfl
  have hleads : Leads "/b/d" (Path.join "/b/d" (letters 250)) ([] ++ [letters 250]) := by
    have hjoined := @leads_join "/b/d" _ haccepts
    rwa [hname.components_eq] at hjoined
  have hcount : 249 + 1 ≤ maxName := by decide
  refine ⟨haccepts, by rw [length_encode_letters]; decide, ?_, ?_⟩
  · refine (append_toBool_iff ⟨"/b/d"⟩ haccepts hbase hleads).2 ⟨leftover, ?_, ?_⟩
    · rw [hdirectory]
      rfl
    · exact opens_letters hcount
  · rw [Bool.eq_false_iff, ne_eq, write_toBool_iff ⟨"/b/d"⟩ haccepts hbase hleads]
    rintro ⟨grown, -, hfault, -⟩
    have hstaged := (File.free_of_openFault? hfault).2.1
    rw [hlong] at hstaged
    cases hstaged

end Bundle

end ClusterBundle
