import ClusterBundle.Text.Blank

/-!
What trimming leaves, and what it means that a text holds another one.
-/

namespace ClusterBundle.Text

variable {needle text : List Char} {c : Char}

theorem contains_iff : contains needle text = true ↔ needle <:+: text := by
  induction text with
  | nil => simp [contains]
  | cons c rest ih =>
      rw [contains, Bool.or_eq_true, ih, List.isPrefixOf_iff_prefix, List.infix_cons_iff]

theorem holds_iff {text needle : String} :
    holds text needle = true ↔ needle.toList <:+: text.toList := contains_iff

theorem head?_dropBlank (h : (dropBlank text).head? = some c) : isBlank c = false := by
  have hhead := List.head?_dropWhile_not isBlank text
  rw [dropBlank] at h
  rw [h] at hhead
  exact hhead

theorem dropBlank_suffix : dropBlank text <:+ text := List.dropWhile_suffix isBlank

/-- A trimmed text does not end in white space. -/
theorem getLast?_trimChars (h : (trimChars text).getLast? = some c) : isBlank c = false := by
  rw [trimChars, List.getLast?_reverse] at h
  exact head?_dropBlank h

/-- Nor does it begin with it. -/
theorem head?_trimChars (h : (trimChars text).head? = some c) : isBlank c = false := by
  have hprefix : trimChars text <+: dropBlank text := by
    rw [← List.reverse_suffix, trimChars, List.reverse_reverse]
    exact dropBlank_suffix
  obtain ⟨rest, hrest⟩ := hprefix
  refine @head?_dropBlank text c ?_
  rw [← hrest, List.head?_append, h]
  rfl

end ClusterBundle.Text
