import ClusterBundle.File.Fault
import ClusterBundle.Text.Utf8

/-!
A file tree as a map from places to entries.

A place is the list of names that lead to it from the root. The tree keeps its entries in a list
with one entry for each place; the root itself is always a directory and has no entry. `find?` is
the view through which everything else is stated: each operation says what it does to it.
-/

namespace ClusterBundle.File

/-- The names that lead from the root to a file or directory. -/
abbrev Place := List String

inductive Entry where
  | file (content : Bytes)
  | directory
  deriving Repr, DecidableEq

structure Tree where
  entries : List (Place × Entry)
  deriving Repr

namespace Tree

/-- The tree with nothing but its root. -/
def empty : Tree := ⟨[]⟩

/-- What is found at a place. -/
def find? (tree : Tree) (place : Place) : Option Entry :=
  if place = [] then some .directory else tree.entries.lookup place

def erase (tree : Tree) (place : Place) : Tree :=
  ⟨tree.entries.filter fun entry => !decide (entry.1 = place)⟩

/-- Puts an entry at a place, whatever was there before. -/
def insert (tree : Tree) (place : Place) (entry : Entry) : Tree :=
  ⟨(place, entry) :: (tree.erase place).entries⟩

/-- Removes a place and everything below it. -/
def eraseBelow (tree : Tree) (place : Place) : Tree :=
  ⟨tree.entries.filter fun entry => !place.isPrefixOf entry.1⟩

def isDirectory (tree : Tree) (place : Place) : Bool := tree.find? place = some .directory

/-- The entries below a place, each with the names that lead to it from there. -/
def below (tree : Tree) (place : Place) : List (Place × Entry) :=
  tree.entries.filterMap fun (here, entry) =>
    if place.isPrefixOf here ∧ place ≠ here then some (here.drop place.length, entry) else none

@[simp] theorem find?_root (tree : Tree) : tree.find? [] = some .directory := rfl

theorem lookup_filter_ne (entries : List (Place × Entry)) (erased place : Place) :
    (entries.filter fun entry => !decide (entry.1 = erased)).lookup place =
      if place = erased then none else entries.lookup place := by
  induction entries with
  | nil => simp
  | cons entry rest ih =>
      obtain ⟨here, content⟩ := entry
      by_cases h : here = erased
      · by_cases hp : place = here
        · rw [List.filter_cons_of_neg (by simp [h]), ih]
          simp [hp, h]
        · rw [List.filter_cons_of_neg (by simp [h]), ih, List.lookup_cons,
            beq_eq_false_iff_ne.2 hp]
      · by_cases hp : place = here
        · subst hp
          simp [h]
        · rw [List.filter_cons_of_pos (by simp [h]), List.lookup_cons,
            beq_eq_false_iff_ne.2 hp, ih, List.lookup_cons, beq_eq_false_iff_ne.2 hp]

theorem find?_erase (tree : Tree) (erased place : Place) (h : place ≠ []) :
    (tree.erase erased).find? place = if place = erased then none else tree.find? place := by
  simp only [find?, erase, h, if_false]
  exact lookup_filter_ne tree.entries erased place

theorem find?_insert (tree : Tree) (target place : Place) (entry : Entry) (h : place ≠ []) :
    (tree.insert target entry).find? place =
      if place = target then some entry else tree.find? place := by
  by_cases hp : place = target
  · subst hp
    simp [find?, insert, h]
  · simp only [find?, insert, h, if_false, List.lookup_cons, beq_eq_false_iff_ne.2 hp, hp]
    simpa [find?, h, hp, erase] using find?_erase tree target place h

end Tree

end ClusterBundle.File
