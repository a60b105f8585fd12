import ClusterBundle.Proofs.Bundle.Access
import ClusterBundle.Proofs.Script.Operation

/-!
The footprint of operations.

An operation touches the bundle by the accesses of one path, its output or the directory it makes.
Which places these can change does not hang on what a cluster answers or on what is in the bundle,
so the places that a list of operations can change are known before it is performed.
-/

namespace ClusterBundle

open File (Access Place walk)
open File.Access (Fits placesBy)
open ClusterBundle.Path (components)

/-- The accesses of putting an answer into the bundle. -/
def Collect.Mode.accesses (mode : Collect.Mode) (output : String) (content : Bytes)
    (bundle : Bundle) (tree : File.Tree) : List Access :=
  match mode with
  | .replace => bundle.writeAccesses tree output content
  | .append => bundle.appendAccesses tree output content

theorem Collect.Mode.performAll_accesses (mode : Collect.Mode) (output : String)
    (content : Bytes) (bundle : Bundle) (tree : File.Tree) :
    File.Access.performAll tree (mode.accesses output content bundle tree) =
      (mode.put output content bundle tree).2 := by
  cases mode with
  | replace => exact Bundle.performAll_writeAccesses bundle tree output content
  | append => exact Bundle.performAll_appendAccesses bundle tree output content

/-- What a step does to the tree: it puts an answer in its place, if there is one. -/
theorem Collect.finish_tree (site : Site) (p : Progress) (mode : Mode) (step : Step)
    (output : String) (content : Bytes) :
    ((finish mode step output (.ok content)).on site p).2.tree =
      (mode.put output content site.bundle p.tree).2 := by
  rcases hput : mode.put output content site.bundle p.tree with ⟨_ | path, tree⟩
  · rw [on_finish_refused step hput]
    rfl
  · rw [on_finish_written step hput]
    rfl

theorem Collect.finish_tree_error (site : Site) (p : Progress) (mode : Mode) (step : Step)
    (output : String) (failure : Cluster.Failure) :
    ((finish mode step output (.error failure)).on site p).2.tree = p.tree := by
  cases habsent : failure.isNotFound with
  | true =>
      rw [on_finish_absent _ _ _ habsent]
      rfl
  | false =>
      rw [on_finish_failed _ _ _ habsent]
      rfl

namespace Operation

/-- The accesses that an operation makes. -/
def accesses (site : Site) (p : Progress) : Operation → List Access
  | .collect mode _ output call =>
      match site.cluster.answer call with
      | .ok content => mode.accesses output content site.bundle p.tree
      | .error _ => []
  | .save _ output content => site.bundle.writeAccesses p.tree output content
  | .makeDirectory _ path => site.bundle.createDirectoryAccesses p.tree path
  | .reset path => site.bundle.writeAccesses p.tree path []
  | .reread path => site.bundle.readAccesses path
  | .skip .. | .fail .. | .ask _ => []

/-- The accesses of several operations, in order. -/
def accessesAll (site : Site) : Progress → List Operation → List Access
  | _, [] => []
  | p, op :: ops => op.accesses site p ++ accessesAll site (op.perform site p) ops

/-- The ways from the root of the bundle to the places where an operation may put a file. -/
def files : Operation → List String → Prop
  | .collect _ _ output _ | .save _ output _ | .reset output => Bundle.filesOf output
  | _ => fun _ => False

/-- The ways to the places where an operation may make a directory. -/
def directories : Operation → List String → Prop
  | .collect _ _ output _ | .save _ output _ | .reset output => Bundle.around output
  | .makeDirectory _ path => Bundle.along path
  | _ => fun _ => False

theorem files_ne_nil (op : Operation) {names : List String} (h : op.files names) :
    names ≠ [] := by
  cases op with
  | collect | save | reset => exact Bundle.filesOf_ne_nil h
  | skip | fail | ask | makeDirectory | reread => exact h.elim

variable {site : Site} {p : Progress} {root : Place}

theorem perform_tree (op : Operation) :
    (op.perform site p).tree = File.Access.performAll p.tree (op.accesses site p) := by
  cases op with
  | collect mode step output call =>
      simp only [perform, act, accesses, Collect.on_bind, Collect.on_ask, Collect.on_pure]
      cases site.cluster.answer call with
      | error failure => rw [Collect.finish_tree_error, File.Access.performAll_nil]
      | ok content => rw [Collect.finish_tree, Collect.Mode.performAll_accesses]
  | save step output content =>
      simp only [perform, act, accesses, Collect.write, Collect.on_map]
      rw [Collect.finish_tree, Bundle.performAll_writeAccesses]
      rfl
  | skip step reason | fail step reason | ask call => rfl
  | makeDirectory pod path =>
      rw [accesses, Bundle.performAll_createDirectoryAccesses]
      simp only [perform, act, Collect.podDirectory, Collect.on_bind, Collect.on_inTree]
      cases (site.bundle.createDirectory p.tree path).1 <;> rfl
  | reset path =>
      rw [accesses, Bundle.performAll_writeAccesses]
      simp only [perform, act, Collect.resetSummary, Collect.on_bind, Collect.on_inTree]
      cases (site.bundle.write p.tree path []).1 <;> rfl
  | reread path => exact (Bundle.performAll_readAccesses _ _ _).symm

theorem performAll_tree (ops : List Operation) :
    (performAll site p ops).tree =
      File.Access.performAll p.tree (accessesAll site p ops) := by
  induction ops generalizing p with
  | nil => rfl
  | cons op ops ih =>
      rw [performAll_cons, ih, accessesAll, File.Access.performAll_append, perform_tree]

/-- Whatever an operation comes to, its accesses stay within its footprint. -/
theorem fits_accesses (hroot : walk p.tree [] (components site.bundle.root) = .ok root)
    (op : Operation) :
    ∀ access ∈ op.accesses site p, Fits site.bundle.root op.files op.directories access := by
  cases op with
  | collect mode step output call =>
      intro access haccess
      rw [accesses] at haccess
      split at haccess
      · cases mode with
        | replace => exact Bundle.fits_writeAccesses hroot access haccess
        | append => exact Bundle.fits_appendAccesses hroot access haccess
      · exact absurd haccess (List.not_mem_nil)
  | save step output content => exact Bundle.fits_writeAccesses hroot
  | makeDirectory pod path => exact Bundle.fits_createDirectoryAccesses hroot
  | reset path => exact Bundle.fits_writeAccesses hroot
  | reread path => exact Bundle.fits_readAccesses
  | skip step reason | fail step reason | ask call =>
      exact fun _ h => absurd h (List.not_mem_nil)

theorem change_perform (hroot : walk p.tree [] (components site.bundle.root) = .ok root)
    (op : Operation) :
    p.tree.Change (placesBy root op.files) (placesBy root op.directories)
      (op.perform site p).tree := by
  rw [perform_tree]
  exact File.Access.change_performAll (fits_accesses hroot op) hroot

/-- The accesses of several operations stay within the footprints of all of them. The root of the
bundle is found again by every one of them, because none makes a directory go away. -/
theorem fits_accessesAll (hroot : walk p.tree [] (components site.bundle.root) = .ok root)
    (ops : List Operation) :
    ∀ access ∈ accessesAll site p ops,
      Fits site.bundle.root (fun names => ∃ op ∈ ops, op.files names)
        (fun names => ∃ op ∈ ops, op.directories names) access := by
  induction ops generalizing p with
  | nil => exact fun _ h => absurd h (List.not_mem_nil)
  | cons op ops ih =>
      intro access haccess
      rcases List.mem_append.1 haccess with haccess | haccess
      · exact (fits_accesses hroot op access haccess).mono
          (fun _ h => ⟨op, List.mem_cons_self, h⟩) fun _ h => ⟨op, List.mem_cons_self, h⟩
      · -- the root can still be walked to, so the rest stays within its footprint too
        refine (ih ((change_perform hroot op).walk hroot) access haccess).mono ?_ ?_
        · rintro names ⟨other, hother, h⟩
          exact ⟨other, List.mem_cons_of_mem _ hother, h⟩
        · rintro names ⟨other, hother, h⟩
          exact ⟨other, List.mem_cons_of_mem _ hother, h⟩

theorem change_performAll (hroot : walk p.tree [] (components site.bundle.root) = .ok root)
    (ops : List Operation) :
    p.tree.Change (placesBy root fun names => ∃ op ∈ ops, op.files names)
      (placesBy root fun names => ∃ op ∈ ops, op.directories names)
      (performAll site p ops).tree := by
  rw [performAll_tree]
  exact File.Access.change_performAll (fits_accessesAll hroot ops) hroot

/-- What is a directory after some operations was one before, or is in the footprint of one of
them. -/
theorem directory_of_performAll
    (hroot : walk p.tree [] (components site.bundle.root) = .ok root) (ops : List Operation)
    {place : Place} (h : (performAll site p ops).tree.find? place = some .directory) :
    p.tree.find? place = some .directory ∨
      placesBy root (fun names => ∃ op ∈ ops, op.directories names) place := by
  rw [performAll_tree] at h
  exact File.Access.directory_of_performAll (fits_accessesAll hroot ops) hroot h

end Operation

end ClusterBundle
