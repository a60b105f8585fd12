import ClusterBundle.Proofs.Bundle.Access
import ClusterBundle.Proofs.File.Closed
import ClusterBundle.Proofs.File.Located

/-!
Making nested directories, and making them again.

To make a directory with those around it either succeeds, and then its path can be walked, or it
fails for a reason that is found in the tree that it leaves: the text of the path, a way that is
blocked, a name that is too long, or a file in the place of the directory. `Blocked` is the last
three of these. So whoever tries again in that tree gets there or fails again, and makes nothing.
-/

namespace ClusterBundle

namespace File

open ClusterBundle.Path (components EndsPlain Outward endsWithSlash)
open Access (Leads)

variable {tree grown : Tree} {path around name : String} {front names outer : List String}
  {base : List String} {root parent place : Place} {fault : IoFault} {absolute : Bool}

/-- A text in front of one that can be a path can be one too, unless it is empty. -/
theorem textFault?_of_prefix (h : around.toList <+: path.toList) (hpath : textFault? path = none) :
    around = "" ∨ textFault? around = none := by
  obtain ⟨rest, hrest⟩ := h
  have htext : path = around ++ String.ofList rest := by
    rw [← String.toList_inj, String.toList_append, String.toList_ofList, hrest]
  by_cases hempty : around = ""
  · exact .inl hempty
  · unfold textFault? at hpath ⊢
    rw [htext] at hpath
    simp only [String.toList_append, List.contains_append, Utf8.encode_append, List.length_append]
      at hpath
    split at hpath
    · cases hpath
    rename_i hnul
    split at hpath
    · cases hpath
    split at hpath
    · cases hpath
    rename_i hlong
    refine .inr ?_
    rw [if_neg (by simp_all), if_neg hempty, if_neg (by omega)]

theorem textFault?_of_mem_parents (h : around ∈ Path.parents path)
    (hpath : textFault? path = none) : around = "" ∨ textFault? around = none :=
  textFault?_of_prefix (Path.prefix_of_mem_parents h) hpath

/-! ### What stands in the way of a directory -/

/-- A name in a directory that has `front` as its way from the root cannot be made a directory. -/
inductive Blocked (tree : Tree) (front : List String) (name : String) : IoFault → Prop
  | around {fault : IoFault} (h : walk tree [] front = .error fault) (hfault : fault ≠ .notFound) :
      Blocked tree front name fault
  | long {parent : Place} (h : walk tree [] front = .ok parent) (hlong : isTooLong name = true) :
      Blocked tree front name .nameTooLong
  | file {parent : Place} {content : Bytes} (h : walk tree [] front = .ok parent)
      (hshort : isTooLong name = false)
      (hfound : tree.find? (parent ++ [name]) = some (.file content)) :
      Blocked tree front name .alreadyExists

section

variable (hplain : EndsPlain path) (hpath : components path = front ++ [name])
  (hname : LeadsDown name) (htext : textFault? path = none)

include hplain hpath htext

/-- A path is lost where the walk to its last name is. -/
theorem locate_of_plain_error (hwalk : walk tree [] front = .error fault) :
    locate tree path = .error fault := by
  obtain ⟨behind, hsteps, hfilter⟩ := hplain.steps_eq hpath
  have hbehind : walk tree [] behind = .error fault := by rw [← walk_filter, hfilter, hwalk]
  rw [locate_of_no_fault htext, spotOf, hsteps, List.getLast?_concat, List.dropLast_concat]
  simp only [hbehind]

include hname

theorem makeDirectory_of_blocked (h : Blocked tree front name fault) :
    makeDirectory tree path = .error fault ∧ isDirectory tree path = false ∧
      fault ≠ .notFound := by
  unfold makeDirectory isDirectory stat
  cases h with
  | around h hfault => simp [locate_of_plain_error hplain hpath htext h, hfault]
  | long h hlong =>
      simp [locate_of_plain hplain hpath hname h htext, hlong, IoFault.nameTooLong,
        IoFault.notFound]
  | file h hshort hfound =>
      have hlocate := locate_of_plain hplain hpath hname h htext
      simp only [hlocate, hshort, hfound, Bool.false_eq_true, if_false]
      refine ⟨trivial, ?_, by decide⟩
      cases endsWithSlash path <;> rfl

/-- What fails for another reason than a missing name is blocked, unless it is there. -/
theorem blocked_of_makeDirectory (h : makeDirectory tree path = .error fault)
    (hfault : fault ≠ .notFound) (hnot : isDirectory tree path = false) :
    Blocked tree front name fault := by
  cases hwalk : walk tree [] front with
  | error reason =>
      unfold makeDirectory at h
      rw [locate_of_plain_error hplain hpath htext hwalk] at h
      cases h
      exact .around hwalk hfault
  | ok parent =>
      have hlocate := locate_of_plain hplain hpath hname hwalk htext
      unfold makeDirectory at h
      unfold isDirectory stat at hnot
      rw [hlocate] at h hnot
      dsimp only at h hnot
      cases hlong : isTooLong name with
      | true =>
          rw [hlong, if_pos rfl] at h
          cases h
          exact .long hwalk hlong
      | false =>
          rw [hlong, if_neg (by simp)] at h hnot
          cases hfound : tree.find? (parent ++ [name]) with
          | none =>
              rw [hfound] at h
              cases h
          | some entry =>
              rw [hfound] at h hnot
              cases h
              cases entry with
              | file content => exact .file hwalk hlong hfound
              | directory => cases hnot

end

/-! ### Where directories were made -/

theorem walk_of_makeDirectory (h : makeDirectory tree path = .ok grown) :
    ∃ place, walk grown [] (components path) = .ok place := by
  obtain ⟨spot, hlocate, hnone, hgrown⟩ := makeDirectory_ok h
  rcases locate_ok hlocate with ⟨place, rfl, hwalk⟩ | ⟨parent, name, slash, front, rfl, hname,
    hpath, hwalk⟩
  · exact absurd (Tree.Open.root.walk hwalk).directory (by simp_all [Spot.place])
  · have hshort : isTooLong name = false := by
      unfold makeDirectory at h
      rw [hlocate] at h
      dsimp only at h
      split at h
      · cases h
      · simp_all
    have hchange := Tree.change_insert_directory hnone
    rw [← hgrown] at hchange
    refine ⟨parent ++ [name], hpath ▸ walk_child (hchange.walk hwalk) hname hshort ?_⟩
    rw [hgrown, Spot.place, Tree.find?_insert_of_ne (by simp), if_pos rfl]

theorem walk_of_isDirectory (h : isDirectory tree path = true) :
    ∃ place, walk tree [] (components path) = .ok place := by
  unfold isDirectory at h
  split at h
  · rename_i place hstat
    exact ⟨place, walk_of_stat hstat⟩
  · cases h

theorem walk_of_createNested {paths : List String} (hhead : paths.head? = some path)
    (h : createNested tree paths = (.ok (), grown)) :
    ∃ place, walk grown [] (components path) = .ok place := by
  cases paths with
  | nil => cases h
  | cons first outer =>
      obtain rfl := Option.some.inj hhead
      rw [createNested] at h
      cases hmade : makeDirectory tree first with
      | ok made =>
          rw [hmade] at h
          cases h
          exact walk_of_makeDirectory hmade
      | error fault =>
          rw [hmade] at h
          dsimp only at h
          split at h
          · rcases houter : createNested tree outer with ⟨_ | _, outside⟩
            · rw [houter] at h
              cases h
            · rw [houter] at h
              dsimp only at h
              cases hagain : makeDirectory outside first with
              | ok made =>
                  rw [hagain] at h
                  cases h
                  exact walk_of_makeDirectory hagain
              | error fault =>
                  rw [hagain] at h
                  dsimp only at h
                  split at h
                  · rename_i hthere
                    cases h
                    exact walk_of_isDirectory hthere
                  · cases h
          · split at h
            · rename_i hthere
              cases h
              exact walk_of_isDirectory hthere
            · cases h

/-- To make a directory that is there does nothing, whatever is around it. -/
theorem createNested_of_walked (hpath : textFault? path = none)
    (hwalk : walk tree [] (components path) = .ok place) (outer : List String) :
    createNested tree (path :: outer) = (.ok (), tree) := by
  have hexists : IoFault.alreadyExists ≠ .notFound := by decide
  simp only [createNested, makeDirectory_of_walked hpath hwalk, isDirectory_of_walked hpath hwalk,
    if_neg hexists, if_true]

/-! ### Failures -/

/-- The ways in which making nested directories fails: at once, or around the last one, or at the
last one when all around it has been made. -/
theorem createNested_error (h : createNested tree (path :: outer) = (.error fault, grown)) :
    (makeDirectory tree path = .error fault ∧ fault ≠ .notFound ∧ isDirectory tree path = false ∧
        grown = tree) ∨
      makeDirectory tree path = .error .notFound ∧
        (createNested tree outer = (.error fault, grown) ∨
          createNested tree outer = (.ok (), grown) ∧ makeDirectory grown path = .error fault ∧
            isDirectory grown path = false) := by
  rw [createNested] at h
  cases hmade : makeDirectory tree path with
  | ok made =>
      rw [hmade] at h
      cases h
  | error reason =>
      rw [hmade] at h
      dsimp only at h
      split at h
      · rename_i hmissing
        rw [hmissing]
        rcases houter : createNested tree outer with ⟨_ | _, outside⟩
        · rw [houter] at h
          cases h
          exact .inr ⟨rfl, .inl rfl⟩
        · rw [houter] at h
          dsimp only at h
          cases hagain : makeDirectory outside path with
          | ok made =>
              rw [hagain] at h
              cases h
          | error again =>
              rw [hagain] at h
              dsimp only at h
              split at h
              · cases h
              · rename_i hnot
                cases h
                exact .inr ⟨rfl, .inr ⟨rfl, hagain, by simpa using hnot⟩⟩
      · rename_i hother
        split at h
        · cases h
        · rename_i hnot
          cases h
          exact .inl ⟨rfl, hother, by simpa using hnot, rfl⟩

theorem createNested_of_error (hmade : makeDirectory tree path = .error fault)
    (hfault : fault ≠ .notFound) (hnot : isDirectory tree path = false) (outer : List String) :
    createNested tree (path :: outer) = (.error fault, tree) := by
  simp only [createNested, hmade, if_neg hfault, hnot, Bool.false_eq_true, if_false]

/-- A directory that is missing is so because the walk to it misses something. -/
theorem walk_of_missing (hplain : EndsPlain path) (hpath : components path = front ++ [name])
    (hname : LeadsDown name) (htext : textFault? path = none)
    (h : makeDirectory tree path = .error .notFound) :
    walk tree [] front = .error .notFound := by
  unfold makeDirectory at h
  cases hwalk : walk tree [] front with
  | error reason =>
      rw [locate_of_plain_error hplain hpath htext hwalk] at h
      cases h
      rfl
  | ok parent =>
      rw [locate_of_plain hplain hpath hname hwalk htext] at h
      dsimp only at h
      split at h
      · exact absurd h (by simp [IoFault.nameTooLong, IoFault.notFound])
      · split at h
        · exact absurd h (by simp [IoFault.alreadyExists, IoFault.notFound])
        · cases h

/-- What is in a closed tree is not missed on the way to it. -/
theorem Tree.Closed.walk_ne_notFound {here : Place} (h : tree.Closed)
    (hnames : ∀ name ∈ names, LeadsDown name) (hfound : tree.find? (here ++ names) ≠ none) :
    walk tree here names ≠ .error .notFound := by
  induction names generalizing here with
  | nil => simp [walk]
  | cons name rest ih =>
      obtain ⟨hname, hrest⟩ := List.forall_mem_cons.1 hnames
      rw [List.append_cons] at hfound
      have hthere : tree.find? (here ++ [name]) ≠ none := by
        cases rest with
        | nil => rwa [List.append_nil] at hfound
        | cons next rest => simp [h.above hfound (List.cons_ne_nil _ _)]
      rw [walk, if_neg hname.1, if_neg hname.2]
      split
      · simp [IoFault.nameTooLong, IoFault.notFound]
      · split
        · exact ih hrest hfound
        · simp [IoFault.notDirectory, IoFault.notFound]
        · contradiction

/-- What keeps a name from being made a directory keeps everything inside of it from that, unless it
is a file. -/
theorem Blocked.inside {inner : String} (h : Blocked tree front inner fault)
    (hinner : LeadsDown inner)
    (hfree : ∀ parent, walk tree [] front = .ok parent →
      ∀ content, tree.find? (parent ++ [inner]) ≠ some (.file content)) (name : String) :
    Blocked tree (front ++ [inner]) name fault := by
  cases h with
  | around hwalk hfault => exact .around (by rw [walk_append, hwalk]) hfault
  | long hwalk hlong =>
      refine .around ?_ (by decide)
      rw [walk_append_of_ok hwalk, walk, if_neg hinner.1, if_neg hinner.2, if_pos hlong]
  | file hwalk hshort hfound => exact absurd hfound (hfree _ hwalk _)

section

variable {base : String} (hclosed : tree.Closed)
  (hroot : walk tree [] (components base) = .ok root)
  (habsolute : Path.isAbsolute base = true → absolute = true)

include hclosed hroot habsolute

/-- Where something was missing there is no file when the directories have been made: a file that is
there now was there before, and nothing was missing on the way to it. -/
theorem not_file_of_missing {inner : String} (houtward : Outward absolute (around :: outer))
    (hleads : Leads base around (front ++ [inner]))
    (hlost : walk tree [] (components base ++ (front ++ [inner])) = .error .notFound)
    (h : (createNested tree (around :: outer)).2 = grown)
    (hparent : walk grown [] (components base ++ front) = .ok parent) (content : Bytes) :
    grown.find? (parent ++ [inner]) ≠ some (.file content) := by
  intro hfound
  have hchange := Access.change_performAll (fits_nestedAccesses hroot habsolute houtward hleads)
    hroot
  rw [performAll_nestedAccesses, h] at hchange
  rw [walk_append_of_ok (hchange.walk hroot)] at hparent
  rw [walk_down (fun n hn => hleads.2 n (List.mem_append_left _ hn)) hparent,
    List.append_assoc] at hfound
  rw [walk_append_of_ok hroot] at hlost
  refine hclosed.walk_ne_notFound hleads.2 (fun hnone => ?_) hlost
  rcases hchange.off _ (by rintro ⟨_, hfile, -⟩; exact hfile) with hsame | ⟨-, -, hmade⟩
  · rw [hfound, hnone] at hsame
    cases hsame
  · rw [hfound] at hmade
    cases hmade

/-- If nested directories cannot be made below a directory, then the path of the innermost is
blocked in the tree that is left. The induction goes outward, and what blocks a directory further
out blocks the way to all inside of it. -/
theorem blocked_of_createNested
    (houtward : Outward absolute (path :: outer)) (hplain : ∀ text ∈ path :: outer, EndsPlain text)
    (htext : ∀ text ∈ path :: outer, text ≠ "" → textFault? text = none)
    (hleads : Leads base path names) (hempty : path ≠ "")
    (h : createNested tree (path :: outer) = (.error fault, grown)) :
    ∃ front name, names = front ++ [name] ∧
      Blocked grown (components base ++ front) name fault := by
  induction outer generalizing path names with
  | nil =>
      cases houtward with
      | last hnone =>
          have hwalk : walk tree [] (components path) = .ok [] := by
            rw [hnone]
            rfl
          rw [createNested_of_walked (htext path (by simp) hempty) hwalk] at h
          cases h
  | cons around rest ih =>
      have hpathText := htext path (by simp) hempty
      obtain ⟨hpathPlain, hrestPlain⟩ := List.forall_mem_cons.1 hplain
      obtain ⟨-, hrestText⟩ := List.forall_mem_cons.1 htext
      rcases List.eq_nil_or_concat names with rfl | ⟨front, name, rfl⟩
      · -- the path leads to the directory that is there
        have hwalk : walk tree [] (components path) = .ok root := by
          rw [hleads.1, List.append_nil, hroot]
        rw [createNested_of_walked hpathText hwalk] at h
        cases h
      rw [List.concat_eq_append] at hleads ⊢
      have hname : LeadsDown name := hleads.2 name (by simp)
      have hpath := hleads.1
      rw [← List.append_assoc] at hpath
      refine ⟨front, name, rfl, ?_⟩
      rcases createNested_error h with ⟨hmade, hfault, hnot, rfl⟩ | ⟨hmissing, hrest⟩
      · exact blocked_of_makeDirectory hpathPlain hpath hname hpathText hmade hfault hnot
      cases houtward with
      | cons last haround hflag houtward =>
          have hcomponents : components around = components base ++ front :=
            (List.append_inj' (haround.symm.trans hpath) rfl).1
          rcases hrest with hrest | ⟨hrest, hagain, hnot⟩
          · have hlost := walk_of_missing hpathPlain hpath hname hpathText hmissing
            have hfront : Leads base around front := ⟨hcomponents,
              fun n hn => hleads.2 n (List.mem_append_left _ hn), fun h => hflag (habsolute h)⟩
            have haroundEmpty : around ≠ "" := by
              rintro rfl
              have hnone : components base ++ front = [] := hcomponents.symm
              rw [hnone] at hlost
              cases hlost
            obtain ⟨further, inner, rfl, hblocked⟩ :=
              ih houtward hrestPlain hrestText hfront haroundEmpty hrest
            rw [← List.append_assoc]
            exact hblocked.inside (hfront.2 inner (by simp))
              (fun parent => not_file_of_missing hclosed hroot habsolute houtward hfront hlost
                (congrArg Prod.snd hrest)) name
          · obtain ⟨place, hwalk⟩ := walk_of_createNested rfl hrest
            refine blocked_of_makeDirectory hpathPlain hpath hname hpathText hagain ?_ hnot
            rintro rfl
            rw [hcomponents, walk_of_missing hpathPlain hpath hname hpathText hagain] at hwalk
            cases hwalk

end

/-! ### Making a directory and all around it -/

theorem createAll_of_ne (hempty : path ≠ "") (tree : Tree) :
    createAll tree path = createNested tree (path :: Path.parents path) := by
  unfold createAll
  rw [if_neg hempty]

/-- A text that cannot be a path makes nothing. -/
theorem createAll_of_fault (hempty : path ≠ "") (htext : textFault? path = some fault)
    (tree : Tree) : createAll tree path = (.error fault, tree) := by
  rw [createAll_of_ne hempty]
  refine createNested_of_error (makeDirectory_of_fault htext) ?_ (isDirectory_of_fault htext) _
  rintro rfl
  exact textFault?_ne_notFound hempty htext

theorem createAll_of_blocked (hplain : EndsPlain path) (hpath : components path = front ++ [name])
    (hname : LeadsDown name) (htext : textFault? path = none)
    (h : Blocked tree front name fault) : createAll tree path = (.error fault, tree) := by
  obtain ⟨hmade, hnot, hfault⟩ := makeDirectory_of_blocked hplain hpath hname htext h
  rw [createAll_of_ne (Path.ne_empty_of_components hpath)]
  exact createNested_of_error hmade hfault hnot _

/-- A directory that was made can be walked to. -/
theorem walk_of_createAll (h : createAll tree path = (.ok (), grown)) :
    (path = "" ∨ textFault? path = none) ∧
      ∃ place, walk grown [] (components path) = .ok place := by
  by_cases hempty : path = ""
  · rw [hempty]
    exact ⟨.inl rfl, [], rfl⟩
  cases htext : textFault? path with
  | none =>
      rw [createAll_of_ne hempty] at h
      exact ⟨.inr rfl, walk_of_createNested rfl h⟩
  | some fault =>
      rw [createAll_of_fault hempty htext] at h
      cases h

/-- The texts of the directories around a path can be used if the path can. -/
theorem texts_of_path (htext : textFault? path = none) :
    ∀ text ∈ path :: Path.parents path, text ≠ "" → textFault? text = none := by
  intro text hmem hempty
  rcases List.mem_cons.1 hmem with rfl | hmem
  · exact htext
  · exact (textFault?_of_mem_parents hmem htext).resolve_left hempty

/-- Why a directory below another one could not be made. -/
theorem blocked_of_createAll {base : String} (hclosed : tree.Closed)
    (hroot : walk tree [] (components base) = .ok root) (hleads : Leads base path names)
    (hplain : EndsPlain path) (h : createAll tree path = (.error fault, grown)) :
    path ≠ "" ∧ (textFault? path = some fault ∧ grown = tree ∨
      textFault? path = none ∧ ∃ front name, names = front ++ [name] ∧
        Blocked grown (components base ++ front) name fault) := by
  have hempty : path ≠ "" := by
    rintro rfl
    cases h
  refine ⟨hempty, ?_⟩
  cases htext : textFault? path with
  | some reason =>
      rw [createAll_of_fault hempty htext] at h
      cases h
      exact .inl ⟨rfl, rfl⟩
  | none =>
      rw [createAll_of_ne hempty] at h
      refine .inr ⟨rfl, blocked_of_createNested hclosed hroot hleads.absolute
        (Path.outward_parents path) ?_ (texts_of_path htext) hleads hempty h⟩
      exact List.forall_mem_cons.2 ⟨hplain, fun _ => Path.endsPlain_of_mem_parents⟩

/-! ### Trying once more -/

/-- The empty path is only tried when nothing is around it, and makes nothing. -/
theorem createNested_empty (houtward : Outward absolute ("" :: outer)) (tree : Tree) :
    createNested tree ("" :: outer) =
      (.error (.other "failed to create whole tree"), tree) := by
  cases houtward with
  | last hnone => rfl
  | cons last hlast =>
      have hnone : components "" = [] := rfl
      simp [hnone] at hlast

/-- A path that leads to a name around which nothing can be walked to is lost itself. -/
theorem locate_of_lost (hpath : components path = components around ++ [name])
    (hlost : ∀ place, walk tree [] (components around) ≠ .ok place) :
    ∃ fault, locate tree path = .error fault := by
  cases hlocate : locate tree path with
  | error fault => exact ⟨fault, rfl⟩
  | ok spot =>
      obtain ⟨there, hthere⟩ := walk_of_locate hpath (List.cons_ne_nil _ _) hlocate
      exact absurd hthere (hlost there)

/-- A directory that is lost, with nothing to be made around it, cannot be made. -/
theorem createNested_of_lost (hlocate : locate tree path = .error fault)
    {again : IoFault} (houter : createNested tree outer = (.error again, tree)) :
    ∃ fault, createNested tree (path :: outer) = (.error fault, tree) := by
  have hmade : makeDirectory tree path = .error fault := by
    unfold makeDirectory
    rw [hlocate]
  have hnot : isDirectory tree path = false := by
    unfold isDirectory stat
    rw [hlocate]
  by_cases hfault : fault = .notFound
  · refine ⟨again, ?_⟩
    rw [createNested, hmade]
    dsimp only
    rw [if_pos hfault, houter]
  · exact ⟨fault, createNested_of_error hmade hfault hnot _⟩

/-- A directory that fails when all around it is there fails in the same way again. -/
theorem createNested_of_made (houter : createNested tree outer = (.ok (), tree))
    (hmade : makeDirectory tree path = .error fault) (hnot : isDirectory tree path = false) :
    createNested tree (path :: outer) = (.error fault, tree) := by
  by_cases hfault : fault = .notFound
  · rw [createNested, hmade]
    dsimp only
    rw [if_pos hfault, houter]
    dsimp only
    rw [hmade]
    dsimp only
    rw [hnot, if_neg (by simp)]
  · exact createNested_of_error hmade hfault hnot _

/-- Nested directories that could not be made cannot be made in the tree that is left. -/
theorem createNested_fails_again (houtward : Outward absolute (path :: outer))
    (htext : ∀ text ∈ path :: outer, text ≠ "" → textFault? text = none)
    (h : createNested tree (path :: outer) = (.error fault, grown)) :
    ∃ fault, createNested grown (path :: outer) = (.error fault, grown) := by
  induction outer generalizing path fault with
  | nil =>
      have hunchanged : grown = tree := by
        rcases createNested_error h with ⟨-, -, -, hsame⟩ | ⟨-, hnone | ⟨hnone, -⟩⟩
        · exact hsame
        · cases hnone
          rfl
        · cases hnone
      exact ⟨fault, hunchanged ▸ h⟩
  | cons around rest ih =>
      obtain ⟨-, hrestText⟩ := List.forall_mem_cons.1 htext
      cases houtward with
      | cons name haround hflag houtward =>
          rcases createNested_error h with ⟨-, -, -, hsame⟩ |
            ⟨-, hrest | ⟨hrest, hagain, hnot⟩⟩
          · exact ⟨fault, hsame ▸ h⟩
          · by_cases hempty : around = ""
            · -- there is nothing around the empty path, so nothing was made
              subst hempty
              have hunchanged : grown = tree := by
                rw [createNested_empty houtward] at hrest
                exact (congrArg Prod.snd hrest).symm
              exact ⟨fault, hunchanged ▸ h⟩
            obtain ⟨again, houter⟩ := ih houtward hrestText hrest
            -- a path that was found would lead through the directory that cannot be made
            have hlost : ∀ place, walk grown [] (components around) ≠ .ok place := by
              intro place hwalk
              rw [createNested_of_walked (hrestText around (by simp) hempty) hwalk] at houter
              cases houter
            obtain ⟨reason, hreason⟩ := locate_of_lost haround hlost
            exact createNested_of_lost hreason houter
          · obtain ⟨place, hwalk⟩ := walk_of_createNested rfl hrest
            have hempty : around ≠ "" := by
              rintro rfl
              rw [createNested_empty houtward] at hrest
              cases hrest
            have houter := createNested_of_walked (hrestText around (by simp) hempty) hwalk rest
            exact ⟨fault, createNested_of_made houter hagain hnot⟩

/-- Making a directory again does nothing, and succeeds just if it did. -/
theorem createAll_twice {result : Except IoFault Unit} (h : createAll tree path = (result, grown)) :
    (createAll grown path).2 = grown ∧ (createAll grown path).1.toBool = result.toBool := by
  cases result with
  | ok _ =>
      obtain ⟨htext, place, hwalk⟩ := walk_of_createAll h
      obtain ⟨hsame, hok⟩ := createAll_of_walked hwalk
      rw [hok.2 htext]
      exact ⟨hsame, rfl⟩
  | error fault =>
      have hempty : path ≠ "" := by
        rintro rfl
        cases h
      cases htext : textFault? path with
      | some reason =>
          rw [createAll_of_fault hempty htext]
          exact ⟨rfl, rfl⟩
      | none =>
          rw [createAll_of_ne hempty] at h ⊢
          obtain ⟨again, hagain⟩ :=
            createNested_fails_again (Path.outward_parents path) (texts_of_path htext) h
          rw [hagain]
          exact ⟨rfl, rfl⟩

end File

end ClusterBundle
