import ClusterBundle.Bundle.Basic
import ClusterBundle.Proofs.File.Access

/-!
The accesses of a bundle.

What a bundle does to the file system is read off its operations here, access by access, and shown
to come to the same. A path that a bundle accepts has no way to go up, so each of these accesses
leads into the root of the bundle: to the file itself, to its staging file, or to a directory
around them.
-/

namespace ClusterBundle

open ClusterBundle.Path (components Outward)

namespace File

/-- The accesses of `createNested`. -/
def nestedAccesses (tree : Tree) : List String → List Access
  | [] => []
  | path :: outer =>
      .makeDirectory path ::
        match makeDirectory tree path with
        | .ok _ => []
        | .error fault =>
            if fault = .notFound then
              nestedAccesses tree outer ++
                match createNested tree outer with
                | (.error _, _) => []
                | (.ok (), grown) =>
                    .makeDirectory path ::
                      match makeDirectory grown path with
                      | .ok _ => []
                      | .error _ => [.look path]
            else [.look path]

/-- The accesses of `createAll`. -/
def createAllAccesses (tree : Tree) (path : String) : List Access :=
  if path = "" then [] else nestedAccesses tree (path :: Path.parents path)

open Access (performAll Leads Fits)

theorem performAll_nestedAccesses (tree : Tree) (paths : List String) :
    performAll tree (nestedAccesses tree paths) = (createNested tree paths).2 := by
  induction paths with
  | nil => rfl
  | cons path outer ih =>
      rw [nestedAccesses, createNested, Access.performAll_cons, Access.perform]
      cases hmade : makeDirectory tree path with
      | ok made => rfl
      | error fault =>
          dsimp only [outcome]
          by_cases hmissing : fault = .notFound
          · rw [if_pos hmissing, if_pos hmissing, Access.performAll_append, ih]
            rcases createNested tree outer with ⟨_ | _, grown⟩
            · rfl
            · dsimp only
              rw [Access.performAll_cons, Access.perform]
              cases hagain : makeDirectory grown path with
              | ok made => rfl
              | error fault =>
                  dsimp only [outcome]
                  split <;> rfl
          · rw [if_neg hmissing, if_neg hmissing]
            split <;> rfl

theorem performAll_createAllAccesses (tree : Tree) (path : String) :
    performAll tree (createAllAccesses tree path) = (createAll tree path).2 := by
  unfold createAllAccesses createAll
  split
  · rfl
  · exact performAll_nestedAccesses tree _

/-- A directory that is there is not missed when it is made. -/
theorem makeDirectory_ne_notFound {tree : Tree} {path : String} {place : Place}
    (hpath : path ≠ "") (hwalk : walk tree [] (components path) = .ok place) :
    makeDirectory tree path ≠ .error .notFound := by
  intro h
  unfold makeDirectory at h
  split at h
  · rename_i fault hlocate
    cases h
    exact locate_ne_notFound hpath hwalk hlocate
  · exact absurd h (by simp [IoFault.alreadyExists, IoFault.notFound])
  · split at h
    · exact absurd h (by simp [IoFault.nameTooLong, IoFault.notFound])
    · split at h
      · exact absurd h (by simp [IoFault.alreadyExists, IoFault.notFound])
      · cases h

theorem fits_attempt {base path : String} {names : List String} {access : Access}
    (hleads : Leads base path names) (h : access = .makeDirectory path ∨ access = .look path) :
    Fits base (fun _ => False) (· <+: names) access := by
  rcases h with rfl | rfl
  · exact Access.fits_makeDirectory hleads (List.prefix_refl names)
  · exact Access.fits_look hleads

/-- Making nested directories inside of one that exists stays there. The way outward ends at that
directory: to make it is refused because it exists, and then nothing around it is tried. -/
theorem fits_nestedAccesses {tree : Tree} {root : Place} {base path : String}
    {names outer : List String} {absolute : Bool}
    (hroot : walk tree [] (components base) = .ok root)
    (habsolute : Path.isAbsolute base = true → absolute = true)
    (houtward : Outward absolute (path :: outer)) (hleads : Leads base path names) :
    ∀ access ∈ nestedAccesses tree (path :: outer),
      Fits base (fun _ => False) (· <+: names) access := by
  -- the induction goes outward, and takes one name off the way from the base in each step
  induction outer generalizing path names with
  | nil =>
      intro access haccess
      apply fits_attempt hleads
      simp only [nestedAccesses, createNested] at haccess
      rcases List.mem_cons.1 haccess with haccess | haccess
      · exact .inl haccess
      · split at haccess
        · exact absurd haccess (List.not_mem_nil)
        · split at haccess
          · exact absurd haccess (List.not_mem_nil)
          · exact .inr (List.mem_singleton.1 haccess)
  | cons around rest ih =>
      cases houtward with
      | cons name haround hflag houtward =>
          intro access haccess
          rw [nestedAccesses] at haccess
          rcases List.mem_cons.1 haccess with haccess | haccess
          · exact fits_attempt hleads (.inl haccess)
          split at haccess
          · exact absurd haccess (List.not_mem_nil)
          rename_i fault hmade
          split at haccess
          · rename_i hmissing
            subst hmissing
            rcases List.eq_nil_or_concat names with rfl | ⟨front, last, rfl⟩
            · -- the path leads to the base, which exists
              have hpath : path ≠ "" := Path.ne_empty_of_components haround
              have hwalk : walk tree [] (components path) = .ok root := by
                rw [hleads.1, List.append_nil, hroot]
              exact absurd hmade (makeDirectory_ne_notFound hpath hwalk)
            · rw [List.concat_eq_append] at hleads ⊢
              have hfront : Leads base around front := by
                refine ⟨?_, fun n hn => hleads.2 n (List.mem_append_left _ hn),
                  fun h => hflag (habsolute h)⟩
                have hboth := haround.symm.trans hleads.1
                rw [← List.append_assoc] at hboth
                exact (List.append_inj' hboth rfl).1
              rcases List.mem_append.1 haccess with haccess | haccess
              · exact (ih houtward hfront access haccess).mono (fun _ h => h) fun _ h =>
                  h.trans (List.prefix_append front [last])
              · -- what is around the path was made, so it is tried once more
                apply fits_attempt hleads
                split at haccess
                · exact absurd haccess (List.not_mem_nil)
                · rcases List.mem_cons.1 haccess with haccess | haccess
                  · exact .inl haccess
                  · split at haccess
                    · exact absurd haccess (List.not_mem_nil)
                    · exact .inr (List.mem_singleton.1 haccess)
          · exact fits_attempt hleads (.inr (List.mem_singleton.1 haccess))

theorem fits_createAllAccesses {tree : Tree} {root : Place} {base path : String}
    {names : List String} (hroot : walk tree [] (components base) = .ok root)
    (hleads : Leads base path names) :
    ∀ access ∈ createAllAccesses tree path, Fits base (fun _ => False) (· <+: names) access := by
  unfold createAllAccesses
  split
  · exact fun _ h => absurd h (List.not_mem_nil)
  · exact fits_nestedAccesses hroot hleads.absolute (Path.outward_parents path) hleads

end File

open File (Access LeadsDown walk)
open File.Access (performAll Leads Fits)

namespace Bundle

/-! ### Accepted paths -/

theorem accepts_iff {path : String} :
    accepts path = true ↔
      Path.isAbsolute path = false ∧ components path ≠ [] ∧ ".." ∉ components path := by
  simp [accepts, and_assoc]

/-- An accepted path has a last name. -/
theorem components_of_accepts {path : String} (h : accepts path = true) :
    ∃ around name, components path = around ++ [name] := by
  rcases List.eq_nil_or_concat (components path) with hnone | ⟨around, name, hlast⟩
  · exact absurd hnone (accepts_iff.1 h).2.1
  · exact ⟨around, name, by rw [hlast, List.concat_eq_append]⟩

/-- An accepted path goes down from the root of the bundle, all the way. -/
theorem leads_join {root path : String} (h : accepts path = true) :
    Leads root (Path.join root path) (components path) := by
  obtain ⟨hrelative, -, hup⟩ := accepts_iff.1 h
  refine ⟨Path.components_join root path hrelative, fun name hname => ⟨?_, ?_⟩,
    fun hroot => Path.isAbsolute_join hroot path⟩
  · rintro rfl
    have hidle := (Path.mem_components hname).2
    simp [Path.isIdle] at hidle
  · rintro rfl
    exact hup hname

theorem resolve_of_accepts (bundle : Bundle) {path : String} (h : accepts path = true) :
    bundle.resolve path = .ok (Path.join bundle.root path) := if_pos h

theorem resolve_ok {bundle : Bundle} {path full : String} (h : bundle.resolve path = .ok full) :
    accepts path = true ∧ full = Path.join bundle.root path := by
  unfold resolve at h
  split at h
  · rename_i haccepts
    cases h
    exact ⟨haccepts, rfl⟩
  · cases h

theorem toList_stagingName (name : String) :
    (stagingName name).toList = '.' :: (name.toList ++ ".partial".toList) := by
  show ("." ++ name ++ ".partial").toList = _
  rw [String.toList_append, String.toList_append]
  rfl

theorem isPiece_stagingName {name : String} (h : Path.IsPiece name) :
    Path.IsPiece (stagingName name) := by
  unfold Path.IsPiece at h ⊢
  rw [toList_stagingName]
  simpa using h

theorem leadsDown_stagingName (name : String) : LeadsDown (stagingName name) := by
  have hlength : 9 ≤ (stagingName name).toList.length := by
    rw [toList_stagingName]
    simp
  constructor
  · intro hname
    simp [hname] at hlength
  · intro hname
    simp [hname] at hlength

theorem not_isIdle_stagingName (name : String) : Path.isIdle (stagingName name) = false := by
  have hempty : stagingName name ≠ "" := by
    intro hname
    have htext := toList_stagingName name
    simp [hname] at htext
  simp [Path.isIdle, hempty, (leadsDown_stagingName name).1]

theorem components_stagingName {name : String} (h : Path.IsPiece name) :
    components (stagingName name) = [stagingName name] :=
  Path.components_of_isPiece (isPiece_stagingName h) (not_isIdle_stagingName name)

section

variable {bundle : Bundle} {around : List String} {base name full : String}
  (h : Leads base full (around ++ [name]))

include h

theorem leads_directoryOf : Leads base (bundle.directoryOf full) around := by
  have hfull := h.1
  rw [← List.append_assoc] at hfull
  obtain ⟨directory, hparent, hdirectory, habsolute⟩ := Path.parent?_eq_some hfull
  rw [directoryOf, hparent]
  exact ⟨hdirectory, fun n hn => h.2 n (List.mem_append_left _ hn),
    fun hbase => habsolute (h.3 hbase)⟩

theorem leads_stagingPath :
    Leads base (bundle.stagingPath full) (around ++ [stagingName name]) := by
  have hname : name ∈ components full := by
    rw [h.1]
    simp
  have hpiece := (Path.mem_components hname).1
  have hfile : Path.fileName? full = some name := by
    have hfull := h.1
    rw [← List.append_assoc] at hfull
    exact Path.fileName?_eq_some hfull (h.2 name (by simp)).2
  have hdirectory := @leads_directoryOf bundle _ _ _ _ h
  refine ⟨?_, ?_, fun hbase => Path.isAbsolute_join (hdirectory.3 hbase) _⟩
  · rw [stagingPath, hfile, Option.getD_some, Path.components_join _ _
      (Path.not_isAbsolute_of_isPiece (isPiece_stagingName hpiece)), hdirectory.1,
      components_stagingName hpiece, List.append_assoc]
  · intro n hn
    rcases List.mem_append.1 hn with hn | hn
    · exact h.2 n (List.mem_append_left _ hn)
    · obtain rfl := List.mem_singleton.1 hn
      exact leadsDown_stagingName name

end

/-! ### The accesses of each operation -/

/-- The accesses of `replace`. -/
def replaceAccesses (bundle : Bundle) (tree : File.Tree) (full : String) (content : Bytes) :
    List Access :=
  let staging := bundle.stagingPath full
  .write staging content ::
    match File.write tree staging content with
    | .error _ => [.remove staging]
    | .ok staged =>
        .rename staging full ::
          match File.rename staged staging full with
          | .ok _ => []
          | .error _ => [.remove staging]

/-- The accesses of `within`. -/
def withinAccesses (bundle : Bundle) (tree : File.Tree) (path : String)
    (act : File.Tree → String → List Access) : List Access :=
  match bundle.resolve path with
  | .error _ => []
  | .ok full =>
      File.createAllAccesses tree (bundle.directoryOf full) ++
        match File.createAll tree (bundle.directoryOf full) with
        | (.error _, _) => []
        | (.ok (), grown) => act grown full

def writeAccesses (bundle : Bundle) (tree : File.Tree) (path : String) (content : Bytes) :
    List Access :=
  bundle.withinAccesses tree path fun tree full => bundle.replaceAccesses tree full content

def appendAccesses (bundle : Bundle) (tree : File.Tree) (path : String) (content : Bytes) :
    List Access :=
  bundle.withinAccesses tree path fun _ full => [.append full content]

def createDirectoryAccesses (bundle : Bundle) (tree : File.Tree) (path : String) : List Access :=
  match bundle.resolve path with
  | .error _ => []
  | .ok full => File.createAllAccesses tree full

/-- The accesses of reading a file of the bundle. -/
def readAccesses (bundle : Bundle) (path : String) : List Access :=
  match bundle.resolve path with
  | .error _ => []
  | .ok full => [.look full]

variable (bundle : Bundle) (tree : File.Tree) (path : String) (content : Bytes)

theorem discardFile_eq (tree : File.Tree) (path : String) :
    discardFile tree path = performAll tree [.remove path] := by
  show discardFile tree path = File.outcome tree (File.remove tree path)
  unfold discardFile
  cases File.remove tree path <;> rfl

theorem performAll_replaceAccesses (full : String) :
    performAll tree (bundle.replaceAccesses tree full content) =
      (bundle.replace tree full content).2 := by
  unfold replaceAccesses replace
  generalize bundle.stagingPath full = staging
  dsimp only
  rw [File.Access.performAll_cons, File.Access.perform]
  cases File.write tree staging content with
  | error fault =>
      dsimp only [File.outcome]
      rw [discardFile_eq]
  | ok staged =>
      dsimp only [File.outcome]
      rw [File.Access.performAll_cons, File.Access.perform]
      cases File.rename staged staging full with
      | ok moved => rfl
      | error fault =>
          dsimp only [File.outcome]
          rw [discardFile_eq]

theorem performAll_withinAccesses {act : File.Tree → String → Written}
    {accesses : File.Tree → String → List Access}
    (h : ∀ tree full, performAll tree (accesses tree full) = (act tree full).2) :
    performAll tree (bundle.withinAccesses tree path accesses) =
      (bundle.within tree path act).2 := by
  unfold withinAccesses within
  cases bundle.resolve path with
  | error fault => rfl
  | ok full =>
      dsimp only
      rw [File.Access.performAll_append, File.performAll_createAllAccesses]
      rcases File.createAll tree (bundle.directoryOf full) with ⟨_ | _, grown⟩
      · rfl
      · exact h grown full

theorem performAll_writeAccesses :
    performAll tree (bundle.writeAccesses tree path content) =
      (bundle.write tree path content).2 :=
  performAll_withinAccesses _ _ _ fun tree full =>
    performAll_replaceAccesses bundle tree content full

theorem performAll_appendAccesses :
    performAll tree (bundle.appendAccesses tree path content) =
      (bundle.append tree path content).2 := by
  refine performAll_withinAccesses _ _ _ fun tree full => ?_
  rw [File.Access.performAll_cons, File.Access.perform, extend]
  cases File.append tree full content <;> rfl

theorem performAll_createDirectoryAccesses :
    performAll tree (bundle.createDirectoryAccesses tree path) =
      (bundle.createDirectory tree path).2 := by
  unfold createDirectoryAccesses createDirectory
  cases bundle.resolve path with
  | error fault => rfl
  | ok full =>
      dsimp only
      rw [File.performAll_createAllAccesses]
      rcases File.createAll tree full with ⟨_ | _, grown⟩ <;> rfl

theorem performAll_readAccesses : performAll tree (bundle.readAccesses path) = tree := by
  unfold readAccesses
  cases bundle.resolve path <;> rfl

/-! ### Where they lead -/

/-- The ways to the file at a path and to its staging file. -/
def filesOf (path : String) (names : List String) : Prop :=
  accepts path = true ∧ ∃ around name, components path = around ++ [name] ∧
    (names = around ++ [name] ∨ names = around ++ [stagingName name])

theorem filesOf_ne_nil {path : String} {names : List String} (h : filesOf path names) :
    names ≠ [] := by
  obtain ⟨-, around, name, -, rfl | rfl⟩ := h <;> simp

/-- The ways to the directories around a path. -/
def around (path : String) (names : List String) : Prop :=
  accepts path = true ∧ names <+: (components path).dropLast

/-- The ways to a directory and to those around it. -/
def along (path : String) (names : List String) : Prop :=
  accepts path = true ∧ names <+: components path

variable {bundle tree path content} {root : File.Place}

theorem fits_withinAccesses {accesses : File.Tree → String → List Access}
    (hroot : walk tree [] (components bundle.root) = .ok root)
    (h : ∀ front name, accepts path = true → components path = front ++ [name] →
      ∀ grown full, Leads bundle.root full (front ++ [name]) →
        ∀ access ∈ accesses grown full,
          Fits bundle.root (filesOf path) (around path) access) :
    ∀ access ∈ bundle.withinAccesses tree path accesses,
      Fits bundle.root (filesOf path) (around path) access := by
  intro access haccess
  unfold withinAccesses at haccess
  split at haccess
  · exact absurd haccess (List.not_mem_nil)
  · rename_i full hresolve
    obtain ⟨haccepts, rfl⟩ := resolve_ok hresolve
    have hleads := @leads_join bundle.root path haccepts
    obtain ⟨front, name, hpath⟩ := components_of_accepts haccepts
    rw [hpath] at hleads
    rcases List.mem_append.1 haccess with haccess | haccess
    · refine (File.fits_createAllAccesses hroot (leads_directoryOf hleads) access haccess).mono
        (fun _ => False.elim) fun names hnames => ⟨haccepts, ?_⟩
      rw [hpath, List.dropLast_concat]
      exact hnames
    · split at haccess
      · exact absurd haccess (List.not_mem_nil)
      · exact h front name haccepts hpath _ _ hleads access haccess

theorem fits_writeAccesses (hroot : walk tree [] (components bundle.root) = .ok root) :
    ∀ access ∈ bundle.writeAccesses tree path content,
      Fits bundle.root (filesOf path) (around path) access := by
  refine fits_withinAccesses hroot fun front name haccepts hpath grown full hleads => ?_
  have hfile : filesOf path (front ++ [name]) := ⟨haccepts, front, name, hpath, .inl rfl⟩
  have hstaging : filesOf path (front ++ [stagingName name]) :=
    ⟨haccepts, front, name, hpath, .inr rfl⟩
  have hstaged : Leads bundle.root (bundle.stagingPath full)
    (front ++ [stagingName name]) := leads_stagingPath hleads
  intro access haccess
  -- the staging file is written, and then it is removed again or moved
  rcases List.mem_cons.1 haccess with rfl | haccess
  · exact File.Access.fits_write hstaged hstaging content
  · split at haccess
    · obtain rfl := List.mem_singleton.1 haccess
      exact File.Access.fits_remove hstaged hstaging
    · rcases List.mem_cons.1 haccess with rfl | haccess
      · exact File.Access.fits_rename hstaged hstaging hleads hfile
      · split at haccess
        · exact absurd haccess (List.not_mem_nil)
        · obtain rfl := List.mem_singleton.1 haccess
          exact File.Access.fits_remove hstaged hstaging

theorem fits_appendAccesses (hroot : walk tree [] (components bundle.root) = .ok root) :
    ∀ access ∈ bundle.appendAccesses tree path content,
      Fits bundle.root (filesOf path) (around path) access := by
  refine fits_withinAccesses hroot fun front name haccepts hpath grown full hleads => ?_
  intro access haccess
  obtain rfl := List.mem_singleton.1 haccess
  exact File.Access.fits_append hleads ⟨haccepts, front, name, hpath, .inl rfl⟩ content

theorem fits_createDirectoryAccesses (hroot : walk tree [] (components bundle.root) = .ok root) :
    ∀ access ∈ bundle.createDirectoryAccesses tree path,
      Fits bundle.root (fun _ => False) (along path) access := by
  intro access haccess
  unfold createDirectoryAccesses at haccess
  split at haccess
  · exact absurd haccess (List.not_mem_nil)
  · rename_i full hresolve
    obtain ⟨haccepts, rfl⟩ := resolve_ok hresolve
    exact (File.fits_createAllAccesses hroot (leads_join haccepts) access haccess).mono
      (fun _ h => h) fun names hnames => ⟨haccepts, hnames⟩

theorem fits_readAccesses {files directories : List String → Prop} :
    ∀ access ∈ bundle.readAccesses path,
      Fits bundle.root files directories access := by
  intro access haccess
  unfold readAccesses at haccess
  split at haccess
  · exact absurd haccess (List.not_mem_nil)
  · rename_i full hresolve
    obtain ⟨haccepts, rfl⟩ := resolve_ok hresolve
    obtain rfl := List.mem_singleton.1 haccess
    exact File.Access.fits_look (leads_join haccepts)

end Bundle

end ClusterBundle
