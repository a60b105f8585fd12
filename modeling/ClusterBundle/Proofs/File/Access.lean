import ClusterBundle.Proofs.File.Change

/-!
Accesses to the file system.

An operation on a bundle is made of several accesses, each to one or two paths. A list of them says
which paths were touched, also where nothing came of it, and performing them one after the other
gives the tree that the operation leaves. What they change follows from where their paths lead.
-/

namespace ClusterBundle.File

open ClusterBundle.Path (components)

/-- One thing that is done by way of a path. -/
inductive Access where
  | makeDirectory (path : String)
  | write (path : String) (content : Bytes)
  | append (path : String) (content : Bytes)
  | remove (path : String)
  | rename (source target : String)
  /-- Looking at what is there, or reading it. -/
  | look (path : String)
  deriving Repr, DecidableEq

/-- The tree after something was tried. -/
def outcome (tree : Tree) : Except IoFault Tree → Tree
  | .ok grown => grown
  | .error _ => tree

namespace Access

/-- The paths where a file may come, go or get another content. -/
def files : Access → List String
  | .write path _ | .append path _ | .remove path => [path]
  | .rename source target => [source, target]
  | .makeDirectory _ | .look _ => []

/-- The paths where a directory may come. -/
def directories : Access → List String
  | .makeDirectory path => [path]
  | _ => []

/-- All paths that an access names. -/
def paths : Access → List String
  | .look path => [path]
  | access => access.files ++ access.directories

/-- The tree after an access, which is the same one if nothing comes of it. -/
def perform (tree : Tree) : Access → Tree
  | .makeDirectory path => outcome tree (File.makeDirectory tree path)
  | .write path content => outcome tree (File.write tree path content)
  | .append path content => outcome tree (File.append tree path content)
  | .remove path => outcome tree (File.remove tree path)
  | .rename source target => outcome tree (File.rename tree source target)
  | .look _ => tree

def performAll (tree : Tree) (accesses : List Access) : Tree := accesses.foldl perform tree

@[simp] theorem performAll_nil (tree : Tree) : performAll tree [] = tree := rfl

@[simp] theorem performAll_cons (tree : Tree) (access : Access) (rest : List Access) :
    performAll tree (access :: rest) = performAll (access.perform tree) rest := rfl

theorem performAll_append (tree : Tree) (front rest : List Access) :
    performAll tree (front ++ rest) = performAll (performAll tree front) rest := by
  simp [performAll]

/-- A path leads into the directory with the path `base`, by way of `names`, none of which leads up
again. -/
structure Leads (base path : String) (names : List String) : Prop where
  components_eq : components path = components base ++ names
  down : ∀ name ∈ names, LeadsDown name
  absolute : Path.isAbsolute base = true → Path.isAbsolute path = true

/-- All paths of an access lead into the directory with the path `base`, and what may change there
is limited. -/
structure Fits (base : String) (files directories : List String → Prop) (access : Access) :
    Prop where
  paths : ∀ path ∈ access.paths, ∃ names, Leads base path names
  files : ∀ path ∈ access.files, ∃ names, Leads base path names ∧ files names
  directories : ∀ path ∈ access.directories, ∃ names, Leads base path names ∧ directories names

variable {base path : String} {names : List String}
  {files directories moreFiles moreDirectories : List String → Prop}
  {tree : Tree} {root : Place} {access : Access} {accesses : List Access}

/-! ### Accesses that fit -/

theorem fits_look (h : Leads base path names) : Fits base files directories (.look path) where
  paths := by
    intro other hother
    obtain rfl := List.mem_singleton.1 hother
    exact ⟨names, h⟩
  files := fun _ h => absurd h (List.not_mem_nil)
  directories := fun _ h => absurd h (List.not_mem_nil)

theorem fits_makeDirectory (h : Leads base path names) (hmay : directories names) :
    Fits base files directories (.makeDirectory path) := by
  have hall : ∀ other ∈ [path], ∃ names, Leads base other names ∧ directories names := by
    intro other hother
    obtain rfl := List.mem_singleton.1 hother
    exact ⟨names, h, hmay⟩
  exact ⟨fun other hother => (hall other hother).imp fun _ h => h.1,
    fun _ h => absurd h (List.not_mem_nil), hall⟩

/-- An access to files only. -/
theorem fits_files (hpaths : access.paths = access.files) (hdirectories : access.directories = [])
    (h : ∀ path ∈ access.files, ∃ names, Leads base path names ∧ files names) :
    Fits base files directories access where
  paths := by
    rw [hpaths]
    exact fun path hpath => (h path hpath).imp fun _ h => h.1
  files := h
  directories := by
    rw [hdirectories]
    exact fun _ h => absurd h (List.not_mem_nil)

theorem fits_write (h : Leads base path names) (hmay : files names) (content : Bytes) :
    Fits base files directories (.write path content) := by
  refine fits_files rfl rfl fun other hother => ?_
  obtain rfl := List.mem_singleton.1 hother
  exact ⟨names, h, hmay⟩

theorem fits_append (h : Leads base path names) (hmay : files names) (content : Bytes) :
    Fits base files directories (.append path content) := by
  refine fits_files rfl rfl fun other hother => ?_
  obtain rfl := List.mem_singleton.1 hother
  exact ⟨names, h, hmay⟩

theorem fits_remove (h : Leads base path names) (hmay : files names) :
    Fits base files directories (.remove path) := by
  refine fits_files rfl rfl fun other hother => ?_
  obtain rfl := List.mem_singleton.1 hother
  exact ⟨names, h, hmay⟩

theorem fits_rename {target : String} {others : List String} (h : Leads base path names)
    (hmay : files names) (htarget : Leads base target others) (hmayTarget : files others) :
    Fits base files directories (.rename path target) := by
  refine fits_files rfl rfl fun other hother => ?_
  rcases List.mem_cons.1 hother with rfl | hother
  · exact ⟨names, h, hmay⟩
  · obtain rfl := List.mem_singleton.1 hother
    exact ⟨others, htarget, hmayTarget⟩

theorem Fits.mono (h : Fits base files directories access)
    (hfiles : ∀ names, files names → moreFiles names)
    (hdirectories : ∀ names, directories names → moreDirectories names) :
    Fits base moreFiles moreDirectories access where
  paths := h.paths
  files := fun path hpath => (h.files path hpath).imp fun names h => ⟨h.1, hfiles names h.2⟩
  directories := fun path hpath =>
    (h.directories path hpath).imp fun names h => ⟨h.1, hdirectories names h.2⟩

/-! ### What they change -/

/-- The places below a directory that some names lead to. -/
def placesBy (root : Place) (ways : List String → Prop) (place : Place) : Prop :=
  ∃ names, ways names ∧ place = root ++ names

theorem placesBy_append {ways : List String → Prop} :
    placesBy root ways (root ++ names) ↔ ways names := by
  refine ⟨?_, fun h => ⟨names, h, rfl⟩⟩
  rintro ⟨same, h, hsame⟩
  rwa [List.append_cancel_left hsame]

theorem change_outcome {placed made : Place → Prop} {result : Except IoFault Tree}
    (h : ∀ grown, result = .ok grown → tree.Change placed made grown) :
    tree.Change placed made (outcome tree result) := by
  cases result with
  | ok grown => exact h grown rfl
  | error fault => exact .refl tree

/-- An access changes no more than it may. -/
theorem Fits.change (h : Fits base files directories access)
    (hroot : walk tree [] (components base) = .ok root) :
    tree.Change (placesBy root files) (placesBy root directories) (access.perform tree) := by
  -- every access that succeeds changes single places, and these are among those allowed
  have hfile : ∀ {names}, files names → ∀ place, place = root ++ names →
      placesBy root files place := fun hmay _ hplace => ⟨_, hmay, hplace⟩
  cases access with
  | makeDirectory path =>
      obtain ⟨names, hleads, hmay⟩ := h.directories path (List.mem_singleton_self _)
      refine change_outcome fun grown hok => ?_
      refine (change_makeDirectory hroot hleads.1 hleads.2 hok).mono (fun _ => False.elim) ?_
      rintro place rfl
      exact ⟨names, hmay, rfl⟩
  | write path content =>
      obtain ⟨names, hleads, hmay⟩ := h.files path (List.mem_singleton_self _)
      refine change_outcome fun grown hok => ?_
      exact (change_write hroot hleads.1 hleads.2 hok).mono (hfile hmay) fun _ => False.elim
  | append path content =>
      obtain ⟨names, hleads, hmay⟩ := h.files path (List.mem_singleton_self _)
      refine change_outcome fun grown hok => ?_
      exact (change_append hroot hleads.1 hleads.2 hok).mono (hfile hmay) fun _ => False.elim
  | remove path =>
      obtain ⟨names, hleads, hmay⟩ := h.files path (List.mem_singleton_self _)
      refine change_outcome fun grown hok => ?_
      exact (change_remove hroot hleads.1 hleads.2 hok).mono (hfile hmay) fun _ => False.elim
  | rename source target =>
      obtain ⟨names, hsource, hmaySource⟩ := h.files source (List.mem_cons_self)
      obtain ⟨others, htarget, hmayTarget⟩ :=
        h.files target (List.mem_cons_of_mem _ (List.mem_singleton_self _))
      refine change_outcome fun grown hok => ?_
      refine (change_rename hroot htarget.1 htarget.2 hsource.1 hsource.2 hok).mono ?_
        fun _ => False.elim
      rintro place (hplace | hplace)
      · exact hfile hmaySource place hplace
      · exact hfile hmayTarget place hplace
  | look path => exact .refl tree

/-- Neither do several, one after the other. -/
theorem change_performAll (h : ∀ access ∈ accesses, Fits base files directories access)
    (hroot : walk tree [] (components base) = .ok root) :
    tree.Change (placesBy root files) (placesBy root directories) (performAll tree accesses) := by
  induction accesses generalizing tree with
  | nil => exact .refl tree
  | cons access rest ih =>
      obtain ⟨haccess, hrest⟩ := List.forall_mem_cons.1 h
      have hchange := haccess.change hroot
      exact hchange.trans (ih hrest (hchange.walk hroot))

/-! ### Where directories come -/

/-- A file that comes to a place makes nothing a directory that was none. -/
theorem directory_of_insert_file {target : Place} {place : Place} {content : Bytes}
    (htarget : tree.find? target ≠ some .directory)
    (h : (tree.insert target (.file content)).find? place = some .directory) :
    tree.find? place = some .directory := by
  rw [Tree.find?_insert_of_ne (Tree.ne_root_of_find? htarget)] at h
  split at h
  · cases h
  · exact h

theorem directory_of_erase {target : Place} {place : Place}
    (htarget : tree.find? target ≠ some .directory)
    (h : (tree.erase target).find? place = some .directory) :
    tree.find? place = some .directory := by
  rw [Tree.find?_erase_of_ne (Tree.ne_root_of_find? htarget)] at h
  split at h
  · cases h
  · exact h

theorem directory_of_outcome {result : Except IoFault Tree} {P : Prop} {place : Place}
    (h : ∀ grown, result = .ok grown → grown.find? place = some .directory →
      tree.find? place = some .directory ∨ P)
    (hplace : (outcome tree result).find? place = some .directory) :
    tree.find? place = some .directory ∨ P := by
  cases result with
  | ok grown => exact h grown rfl hplace
  | error fault => exact .inl hplace

/-- What is a directory after an access was one before, or the access may make it. -/
theorem Fits.directory (h : Fits base files directories access)
    (hroot : walk tree [] (components base) = .ok root) {place : Place}
    (hplace : (access.perform tree).find? place = some .directory) :
    tree.find? place = some .directory ∨ placesBy root directories place := by
  cases access with
  | makeDirectory path =>
      obtain ⟨names, hleads, hmay⟩ := h.directories path (List.mem_singleton_self _)
      refine directory_of_outcome (fun grown hok hgrown => ?_) hplace
      obtain ⟨spot, hlocate, hnone, rfl⟩ := makeDirectory_ok hok
      have hfree : tree.find? spot.place ≠ some .directory := by simp [hnone]
      rw [Tree.find?_insert_of_ne (Tree.ne_root_of_find? hfree)] at hgrown
      split at hgrown
      · rename_i hsame
        exact .inr ⟨names, hmay, hsame.trans (locate_place hroot hleads.1 hleads.2 hlocate)⟩
      · exact .inl hgrown
  | write path content =>
      refine directory_of_outcome (fun grown hok hgrown => .inl ?_) hplace
      obtain ⟨spot, -, hfree, rfl⟩ := write_ok hok
      exact directory_of_insert_file hfree hgrown
  | append path content =>
      refine directory_of_outcome (fun grown hok hgrown => .inl ?_) hplace
      obtain ⟨spot, old, -, hfree, rfl⟩ := append_ok hok
      exact directory_of_insert_file hfree hgrown
  | remove path =>
      refine directory_of_outcome (fun grown hok hgrown => .inl ?_) hplace
      obtain ⟨spot, content, -, hfound, rfl⟩ := remove_ok hok
      exact directory_of_erase (by simp [hfound]) hgrown
  | rename source target =>
      refine directory_of_outcome (fun grown hok hgrown => .inl ?_) hplace
      obtain ⟨start, spot, content, -, -, hfound, hfree, rfl⟩ := rename_ok hok
      have hstart : tree.find? start.place ≠ some .directory := by simp [hfound]
      refine directory_of_erase hstart (directory_of_insert_file ?_ hgrown)
      exact fun hspot => hfree (directory_of_erase hstart hspot)
  | look path => exact .inl hplace

/-- What is a directory after some accesses was one before, or one of them may make it. -/
theorem directory_of_performAll (h : ∀ access ∈ accesses, Fits base files directories access)
    (hroot : walk tree [] (components base) = .ok root) {place : Place}
    (hplace : (performAll tree accesses).find? place = some .directory) :
    tree.find? place = some .directory ∨ placesBy root directories place := by
  induction accesses generalizing tree with
  | nil => exact .inl hplace
  | cons access rest ih =>
      obtain ⟨haccess, hrest⟩ := List.forall_mem_cons.1 h
      rcases ih hrest ((haccess.change hroot).walk hroot) hplace with hbefore | hmay
      · exact haccess.directory hroot hbefore
      · exact .inr hmay

end Access

end ClusterBundle.File
