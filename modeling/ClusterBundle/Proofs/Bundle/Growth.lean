import ClusterBundle.Proofs.Bundle.Content
import ClusterBundle.Proofs.File.Closed

/-!
How a tree grows while something is put into a bundle.

Putting something into a bundle never takes away what somebody else could need later on: directories
stay, files stay files, and only the files under the names of staging files go. So whatever stood in
the way of a path still stands there afterwards, and whatever was made for it is there. Two
relations keep this, place by place: what may become of a place where nothing is put, and what may
become of any place.
-/

namespace ClusterBundle

open File (Entry Place Tree walk isTooLong)

/-- What may become of a place while something is put somewhere else. -/
inductive Aside (place : Place) : Option Entry → Option Entry → Prop
  | same (entry : Option Entry) : Aside place entry entry
  | made (h : ¬ IsStaged place) : Aside place none (some .directory)
  | gone (h : IsStaged place) (content : Bytes) : Aside place (some (.file content)) none

/-- What may become of a place while a bundle is worked with. -/
def Grows (place : Place) (before after : Option Entry) : Prop :=
  Aside place before after ∨
    ¬ IsStaged place ∧ before ≠ some .directory ∧ ∃ content, after = some (.file content)

variable {place : Place} {before after last later : Option Entry} {content : Bytes}

namespace Aside

theorem trans (h : Aside place before after) (hnext : Aside place after last) :
    Aside place before last := by
  cases h with
  | same => exact hnext
  | made h =>
      cases hnext
      exact .made h
  | gone h content =>
      cases hnext with
      | same => exact .gone h content
      | made hnot => exact absurd h hnot

theorem kept (h : Aside place (some .directory) after) : after = some .directory := by
  cases h
  rfl

theorem file (h : Aside place (some (.file content)) after) (hplace : ¬ IsStaged place) :
    after = some (.file content) := by
  cases h with
  | same => rfl
  | gone h => exact absurd h hplace

/-- The content of a file that is not a staging file stays. -/
theorem content? {tree grown : Tree} (h : Aside place (tree.find? place) (grown.find? place))
    (hplace : ¬ IsStaged place) : grown.content? place = tree.content? place := by
  unfold File.Tree.content?
  generalize tree.find? place = before at h ⊢
  generalize grown.find? place = after at h ⊢
  cases h with
  | same => rfl
  | made => rfl
  | gone h => exact absurd h hplace

end Aside

namespace Grows

theorem refl (place : Place) (entry : Option Entry) : Grows place entry entry := .inl (.same entry)

theorem kept (h : Grows place (some .directory) after) : after = some .directory := by
  rcases h with h | ⟨-, hfree, -⟩
  · exact h.kept
  · exact absurd rfl hfree

theorem file (h : Grows place (some (.file content)) after) (hplace : ¬ IsStaged place) :
    ∃ content, after = some (.file content) := by
  rcases h with h | ⟨-, -, h⟩
  · exact ⟨content, h.file hplace⟩
  · exact h

/-- Nothing comes back to the place of a staging file. -/
theorem none_of_staged (h : Grows place none after) (hplace : IsStaged place) : after = none := by
  rcases h with h | ⟨hnot, -⟩
  · cases h with
    | same => rfl
    | made hnot => exact absurd hplace hnot
  · exact absurd hplace hnot

/-- No directory comes to the place of a staging file either. -/
theorem directory_iff_of_staged (h : Grows place before after) (hplace : IsStaged place) :
    after = some .directory ↔ before = some .directory := by
  rcases h with h | ⟨hnot, -⟩
  · cases h with
    | same => rfl
    | made hnot => exact absurd hplace hnot
    | gone => simp
  · exact absurd hplace hnot

theorem trans (h : Grows place before after) (hnext : Grows place after last) :
    Grows place before last := by
  rcases hnext with hnext | ⟨hplace, hfree, hfile⟩
  · rcases h with h | ⟨hplace, hfree, content, rfl⟩
    · exact .inl (h.trans hnext)
    · exact .inr ⟨hplace, hfree, content, hnext.file hplace⟩
  · refine .inr ⟨hplace, ?_, hfile⟩
    rintro rfl
    exact hfree h.kept

end Grows

/-- What became of a place aside has become of it once and for all: if it looks later on as it did
before, then it looks as it did in between, or that was what it had come to. -/
theorem Aside.again (h : Aside place before after) (hlast : Grows place after last)
    (hlater : Grows place last later) (hsame : later = before) : later = last ∨ later = after := by
  cases h with
  | same => exact .inr hsame
  | made hplace =>
      obtain rfl := hlast.kept
      exact .inl hlater.kept
  | gone hplace content =>
      obtain rfl := hlast.none_of_staged hplace
      exact .inl (hlater.none_of_staged hplace)

/-! ### Trees -/

/-- One tree comes from another while a bundle is worked with. -/
def File.Tree.Grown (before after : Tree) : Prop :=
  ∀ place, Grows place (before.find? place) (after.find? place)

namespace File.Tree.Grown

variable {tree grown after : Tree} {here : Place} {names : List String} {fault : IoFault}

theorem refl (tree : Tree) : tree.Grown tree := fun place => .refl place _

theorem trans (h : tree.Grown grown) (hnext : grown.Grown after) : tree.Grown after :=
  fun place => (h place).trans (hnext place)

theorem of_aside (h : ∀ place, Aside place (tree.find? place) (grown.find? place)) :
    tree.Grown grown := fun place => .inl (h place)

theorem kept (h : tree.Grown grown) (place : Place) (hplace : tree.find? place = some .directory) :
    grown.find? place = some .directory := (hplace ▸ h place).kept

theorem walk (h : tree.Grown grown) (hwalk : File.walk tree here names = .ok place) :
    File.walk grown here names = .ok place := walk_kept h.kept hwalk

theorem file (h : tree.Grown grown) (hfound : tree.find? place = some (.file content))
    (hplace : ¬ IsStaged place) : ∃ content, grown.find? place = some (.file content) :=
  (hfound ▸ h place).file hplace

end File.Tree.Grown

/-- A name that is not the name of a staging file. -/
def IsLasting (name : String) : Prop := ∀ other, name ≠ Bundle.stagingName other

theorem not_isStaged {parent : Place} {name : String} (h : IsLasting name) :
    ¬ IsStaged (parent ++ [name]) := by
  rintro ⟨front, other, heq⟩
  exact h other (List.cons.inj (List.append_inj' heq rfl).2).1

theorem isStaged_stagingName (parent : Place) (name : String) :
    IsStaged (parent ++ [Bundle.stagingName name]) := ⟨parent, name, rfl⟩

/-- A way that is blocked by something else than a missing name stays blocked. -/
theorem File.Tree.Grown.walk_error {tree grown : Tree} {here : Place} {names : List String}
    {fault : IoFault} (h : tree.Grown grown) (hnames : ∀ name ∈ names, IsLasting name)
    (hwalk : File.walk tree here names = .error fault) (hfault : fault ≠ .notFound) :
    File.walk grown here names = .error fault := by
  induction names generalizing here with
  | nil => cases hwalk
  | cons name rest ih =>
      obtain ⟨hname, hrest⟩ := List.forall_mem_cons.1 hnames
      rw [File.walk] at hwalk ⊢
      by_cases hidle : name = "."
      · rw [if_pos hidle] at hwalk ⊢
        exact ih hrest hwalk
      rw [if_neg hidle] at hwalk ⊢
      by_cases hup : name = ".."
      · rw [if_pos hup] at hwalk ⊢
        exact ih hrest hwalk
      rw [if_neg hup] at hwalk ⊢
      by_cases hlong : isTooLong name = true
      · rw [if_pos hlong] at hwalk ⊢
        exact hwalk
      rw [if_neg hlong] at hwalk ⊢
      -- a directory leads on and a file blocks the way, in both trees
      cases hfound : tree.find? (here ++ [name]) with
      | none =>
          rw [hfound] at hwalk
          exact absurd (Except.error.inj hwalk).symm hfault
      | some entry =>
          rw [hfound] at hwalk
          cases entry with
          | directory =>
              rw [h.kept _ hfound]
              exact ih hrest hwalk
          | file content =>
              obtain ⟨other, hother⟩ := h.file hfound (not_isStaged hname)
              rw [hother]
              exact hwalk

end ClusterBundle
