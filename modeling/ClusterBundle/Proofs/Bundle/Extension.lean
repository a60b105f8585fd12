import ClusterBundle.Proofs.Bundle.Attempt

/-!
Adding to a file that was just written.

Once a file was given a content, nothing keeps the bundle from adding to it: the directory around it
is there, and its path leads to it. So a file that is emptied first and then only added to holds
what was added, in order, whatever it held before.
-/

namespace ClusterBundle

open File (Place Tree walk textFault? isTooLong)
open ClusterBundle.Path (components)

namespace Bundle

variable {bundle : Bundle} {tree after : Tree} {path full : String} {content more : Bytes}

/-- A file of a bundle with a content, at a path by which it can be read and added to. -/
structure Holds (bundle : Bundle) (tree : Tree) (path full : String) (content : Bytes) : Prop where
  resolves : bundle.resolve path = .ok full
  /-- The directory around the file is there, and nothing in its path is in the way. -/
  directory : ∃ place, walk tree [] (components (bundle.directoryOf full)) = .ok place
  usable : bundle.directoryOf full = "" ∨ textFault? (bundle.directoryOf full) = none
  file : ∃ parent name, File.locate tree full = .ok (.name parent name false) ∧
    isTooLong name = false ∧ tree.find? (parent ++ [name]) = some (.file content)

namespace Holds

theorem read (h : bundle.Holds tree path full content) : File.read tree full = .ok content := by
  obtain ⟨parent, name, hlocate, hshort, hfound⟩ := h.file
  unfold File.read
  rw [File.stat_of_located (fun _ hplace => hplace) hlocate hshort hfound]

/-- Nothing has to be made around the file. -/
theorem createAll (h : bundle.Holds tree path full content) :
    File.createAll tree (bundle.directoryOf full) = (.ok (), tree) := by
  obtain ⟨place, hwalk⟩ := h.directory
  obtain ⟨hsame, hok⟩ := File.createAll_of_walked hwalk
  exact Prod.ext (hok.2 h.usable) hsame

/-- Adding to the file succeeds, and it can be added to again. -/
theorem append (h : bundle.Holds tree path full content) (more : Bytes) :
    (bundle.append tree path more).1 = .ok full ∧
      bundle.Holds (bundle.append tree path more).2 path full (content ++ more) := by
  obtain ⟨place, hwalk⟩ := h.directory
  obtain ⟨parent, name, hlocate, hshort, hfound⟩ := h.file
  have hopened : File.openToWrite tree full = .ok (parent ++ [name], content) := by
    simp [File.openToWrite, hlocate, hshort, hfound]
  have happend : bundle.append tree path more =
      (.ok full, tree.insert (parent ++ [name]) (.file (content ++ more))) := by
    simp only [Bundle.append, within, h.resolves, h.createAll, extend, File.append, hopened,
      Except.map]
  have hfree : tree.find? (parent ++ [name]) ≠ some .directory := by simp [hfound]
  have hkept := (File.Tree.change_insert_file hfree (content ++ more)).kept
  rw [happend]
  refine ⟨rfl, h.resolves, ⟨place, File.walk_kept hkept hwalk⟩, h.usable,
    parent, name, File.locate_kept hkept hlocate, hshort, ?_⟩
  rw [File.Tree.find?_insert_of_ne (by simp), if_pos rfl]

end Holds

/-- A file that was written holds its content. -/
theorem holds_of_write (h : bundle.write tree path content = (.ok full, after)) :
    bundle.Holds after path full content := by
  unfold write within at h
  cases hresolve : bundle.resolve path with
  | error fault => simp [hresolve] at h
  | ok resolved =>
  rw [hresolve] at h
  dsimp only at h
  rcases hmade : File.createAll tree (bundle.directoryOf resolved) with ⟨_ | _, made⟩
  · simp [hmade] at h
  rw [hmade] at h
  dsimp only [replace] at h
  cases hstaged : File.write made (bundle.stagingPath resolved) content with
  | error fault => simp [hstaged] at h
  | ok staged =>
  rw [hstaged] at h
  dsimp only at h
  cases hmoved : File.rename staged (bundle.stagingPath resolved) resolved with
  | error fault => simp [hmoved] at h
  | ok moved =>
  rw [hmoved] at h
  cases h
  -- neither step takes a directory away
  obtain ⟨spot, -, hfree, rfl⟩ := File.write_ok hstaged
  have hkept := (File.Tree.change_insert_file hfree content).kept
  obtain ⟨husable, place, hwalk⟩ := File.walk_of_createAll hmade
  obtain ⟨source, hsource⟩ := File.stat_of_write hstaged
  obtain ⟨parent, name, hlocate, hshort, hfound, hstays⟩ := File.located_of_rename hsource hmoved
  exact ⟨hresolve, ⟨place, File.walk_kept hstays (File.walk_kept hkept hwalk)⟩, husable,
    parent, name, File.locate_kept hstays hlocate, hshort, hfound⟩

end Bundle

end ClusterBundle
