import ClusterBundle.File.Operation
import ClusterBundle.Proofs.File.Components

/-!
The names that a cluster gives to its objects.

An API server takes only certain texts as the names of objects: labels of small letters, digits and
hyphens, joined by dots. Such a name can be the name of a file as it is. It has no slash in it, and
it does not start with a dot, so it is not one of the names that lead nowhere or up, and not the
name of a staging file either.
-/

namespace ClusterBundle.Cluster

open ClusterBundle.Path (IsPiece IsName)

/-- A character at the ends of a label. -/
def isAlphanumeric (c : Char) : Bool := c.isLower || c.isDigit

/-- A character inside of a label. -/
def isLabelChar (c : Char) : Bool := isAlphanumeric c || c = '-'

/-- What stands between the dots of a name. -/
def isNamePart (part : String) : Bool :=
  part.toList.all isLabelChar && part.toList.head?.any isAlphanumeric &&
    part.toList.getLast?.any isAlphanumeric

/-- A label: a name without dots, of 63 characters at most. -/
def IsLabel (name : String) : Prop := isNamePart name = true ∧ name.toList.length ≤ 63

/-- The name of an object: labels joined by dots, of 253 characters at most. -/
def IsObjectName (name : String) : Prop :=
  (Text.split '.' name).all isNamePart = true ∧ name.toList.length ≤ 253

instance (name : String) : Decidable (IsLabel name) := inferInstanceAs (Decidable (_ ∧ _))

instance (name : String) : Decidable (IsObjectName name) := inferInstanceAs (Decidable (_ ∧ _))

variable {name part : String}

theorem isLabelChar_of_isNamePart (h : isNamePart part = true) {c : Char}
    (hc : c ∈ part.toList) : isLabelChar c = true := by
  simp only [isNamePart, Bool.and_eq_true, List.all_eq_true] at h
  exact h.1.1 c hc

theorem IsLabel.isPiece (h : IsLabel name) : IsPiece name := fun hslash =>
  absurd (isLabelChar_of_isNamePart h.1 hslash) (by decide)

namespace IsObjectName

theorem isLabelChar (h : IsObjectName name) {c : Char} (hc : c ∈ name.toList) :
    c = '.' ∨ Cluster.isLabelChar c = true := by
  by_cases hdot : c = '.'
  · exact .inl hdot
  · obtain ⟨part, hpart, hmem⟩ := Text.exists_mem_splitChars_iff.2 ⟨hc, hdot⟩
    have hname := List.all_eq_true.1 h.1 _ (List.mem_map_of_mem hpart)
    exact .inr (isLabelChar_of_isNamePart hname (by rwa [String.toList_ofList]))

theorem isPiece (h : IsObjectName name) : IsPiece name := fun hslash =>
  (h.isLabelChar hslash).elim (by decide) (by decide)

/-- The first part of a name is not empty, so the name does not start with a dot. -/
theorem head?_ne (h : IsObjectName name) : name.toList.head? ≠ some '.' := by
  intro hdot
  obtain ⟨rest, hrest⟩ : ∃ rest, name.toList = '.' :: rest := by
    cases htext : name.toList with
    | nil => simp [htext] at hdot
    | cons first rest =>
        rw [htext] at hdot
        exact ⟨rest, by rw [Option.some.inj hdot]⟩
  have hsplit := Text.splitChars_append_cons '.' [] rest
  have hparts := h.1
  rw [Text.split, hrest] at hparts
  simp only [List.nil_append] at hsplit
  rw [hsplit] at hparts
  simp [Text.splitChars, isNamePart] at hparts

theorem isName (h : IsObjectName name) : IsName name := by
  refine ⟨h.isPiece, ?_⟩
  have hdot : name ≠ "." := by
    rintro rfl
    exact h.head?_ne rfl
  have hempty : name ≠ "" := by
    rintro rfl
    exact absurd h (by decide)
  simp [Path.isIdle, hdot, hempty]

theorem not_mem (h : IsObjectName name) {c : Char} (hdot : c ≠ '.')
    (hc : Cluster.isLabelChar c = false) : c ∉ name.toList := by
  intro hmem
  rcases h.isLabelChar hmem with heq | hlabel
  · exact hdot heq
  · rw [hc] at hlabel
    cases hlabel

theorem utf8Size_eq_one (h : IsObjectName name) {c : Char} (hc : c ∈ name.toList) :
    c.utf8Size = 1 := by
  rcases h.isLabelChar hc with rfl | hlabel
  · rfl
  rw [Char.utf8Size_eq_one_iff]
  rcases Bool.or_eq_true_iff.1 hlabel with halphanumeric | hhyphen
  · rcases Bool.or_eq_true_iff.1 halphanumeric with hletter | hdigit
    · obtain ⟨-, hlast⟩ := Bool.and_eq_true_iff.1 hletter
      exact UInt32.le_trans (of_decide_eq_true hlast) (by decide)
    · obtain ⟨-, hlast⟩ := Bool.and_eq_true_iff.1 hdigit
      exact UInt32.le_trans (of_decide_eq_true hlast) (by decide)
  · rw [of_decide_eq_true hhyphen]
    decide

/-- The name of an object has one byte for each character. -/
theorem not_isTooLong (h : IsObjectName name) : File.isTooLong name = false := by
  have hbytes : ∀ text : List Char, (∀ c ∈ text, c ∈ name.toList) →
      (text.flatMap String.utf8EncodeChar).length = text.length := by
    intro text htext
    induction text with
    | nil => rfl
    | cons c rest ih =>
        obtain ⟨hc, hrest⟩ := List.forall_mem_cons.1 htext
        rw [List.flatMap_cons, List.length_append, ih hrest,
          String.utf8EncodeChar_eq_singleton (h.utf8Size_eq_one hc)]
        exact Nat.add_comm 1 rest.length
  have hlength : (Utf8.encode name).length = name.toList.length := hbytes _ fun _ hc => hc
  rw [File.isTooLong, hlength, decide_eq_false_iff_not, File.maxName]
  have hshort := h.2
  omega

end IsObjectName

end ClusterBundle.Cluster
