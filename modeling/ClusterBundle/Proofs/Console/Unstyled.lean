import ClusterBundle.Console.Style

/-!
Text without the sequences that set its style.

A sequence that sets a style is an escape character, a bracket, parameters, and an `m`. To take all
of them out of a text is to read it from left to right. A character that is in no such sequence and
cannot be part of one cuts the text in two that can be read apart, and that is how what is taken
out of one line is known not to depend on the lines around it.
-/

namespace ClusterBundle.Console

/-- The character that begins every escape sequence. -/
def escape : Char := '\x1b'

/-- The characters that the parameters of a style are made of. -/
def isParameter (c : Char) : Bool := c.isDigit || c = ';' || c = ':'

/-- What stands behind the sequence that sets a style at the front of a text, if there is one. -/
def behindStyle? : List Char → Option (List Char)
  | c :: d :: rest =>
      if c = escape ∧ d = '[' ∧ (rest.dropWhile isParameter).head? = some 'm' then
        some ((rest.dropWhile isParameter).drop 1)
      else none
  | _ => none

theorem length_of_behindStyle? {text after : List Char} (h : behindStyle? text = some after) :
    after.length < text.length := by
  unfold behindStyle? at h
  split at h
  · rename_i c d rest
    split at h
    · cases h
      have hdrop := (List.dropWhile_suffix (l := rest) isParameter).length_le
      simp only [List.length_drop, List.length_cons]
      omega
    · cases h
  · cases h

/-- A text without the sequences that set a style. -/
def unstyled (text : List Char) : List Char :=
  match _h : behindStyle? text with
  | some after => unstyled after
  | none =>
      match text with
      | [] => []
      | c :: rest => c :: unstyled rest
termination_by text.length
decreasing_by
  · exact length_of_behindStyle? ‹_›
  · simp

section

variable {c : Char} {text rest after : List Char}

@[simp] theorem unstyled_nil : unstyled [] = [] := by
  rw [unstyled]
  rfl

theorem unstyled_of_behind (h : behindStyle? text = some after) :
    unstyled text = unstyled after := by
  rw [unstyled]
  split
  · rename_i found hfound
    rw [h] at hfound
    cases hfound
    rfl
  · rename_i hnone
    rw [h] at hnone
    cases hnone

theorem unstyled_cons (h : behindStyle? (c :: rest) = none) :
    unstyled (c :: rest) = c :: unstyled rest := by
  rw [unstyled]
  split
  · rename_i found hfound
    rw [h] at hfound
    cases hfound
  · rfl

theorem behindStyle?_of_ne (h : c ≠ escape) : behindStyle? (c :: rest) = none := by
  cases rest <;> simp [behindStyle?, h]

/-- A text without an escape character is left as it is. -/
theorem unstyled_append (h : escape ∉ text) (rest : List Char) :
    unstyled (text ++ rest) = text ++ unstyled rest := by
  induction text with
  | nil => rfl
  | cons c text ih =>
      simp only [List.mem_cons, not_or] at h
      rw [List.cons_append, unstyled_cons (behindStyle?_of_ne (Ne.symm h.1)), ih h.2]
      rfl

/-- A character that is in no sequence that sets a style. -/
structure IsBreak (c : Char) : Prop where
  escape : c ≠ escape
  bracket : c ≠ '['
  parameter : isParameter c = false
  final : c ≠ 'm'

theorem behindStyle?_append (hc : IsBreak c) (htext : text ≠ []) :
    behindStyle? (text ++ c :: rest) = (behindStyle? text).map (· ++ c :: rest) := by
  match text with
  | [] => exact absurd rfl htext
  | [x] => simp [behindStyle?, hc.bracket]
  | x :: y :: front =>
      have hdrop : (front ++ c :: rest).dropWhile isParameter =
          front.dropWhile isParameter ++ c :: rest := by
        rw [List.dropWhile_append]
        split
        · rename_i hempty
          rw [List.isEmpty_iff.1 hempty, List.dropWhile_cons_of_neg (by simp [hc.parameter])]
          rfl
        · rfl
      simp only [List.cons_append, behindStyle?, hdrop]
      cases front.dropWhile isParameter with
      | nil => simp [hc.final]
      | cons d more => split <;> simp_all

/-- A character that is in no sequence that sets a style cuts a text in two. -/
theorem unstyled_break (hc : IsBreak c) :
    unstyled (text ++ c :: rest) = unstyled text ++ c :: unstyled rest := by
  induction text using unstyled.induct with
  | case1 text after h ih =>
      have htext : text ≠ [] := by
        rintro rfl
        cases h
      rw [unstyled_of_behind h, ← ih]
      refine unstyled_of_behind ?_
      rw [behindStyle?_append hc htext, h]
      rfl
  | case2 => simp [unstyled_cons (behindStyle?_of_ne hc.escape)]
  | case3 d text h ih =>
      rw [unstyled_cons h, List.cons_append, unstyled_cons, ih]
      · rfl
      · rw [← List.cons_append, behindStyle?_append hc (by simp), h]
        rfl

end

end ClusterBundle.Console
