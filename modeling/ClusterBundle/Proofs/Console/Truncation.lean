import ClusterBundle.Console.Summary

/-!
What is shown of a reason.

A reason is shown by its first line, which is cut if it has too many characters. A line ends at a
line feed; a carriage return belongs to the line end only where it stands right before one, and is
a character like any other elsewhere. A cut line has one character more than the limit, the mark, so
it is cut again at the same place if it is shown once more, and then it has the same mark.
-/

namespace ClusterBundle.Console

/-! ### The first line -/

/-- What the first line of a text is, by the way in which it ends. -/
inductive IsFirstLine : (text line : List Char) → Prop where
  /-- There is no line end, whatever the last character is. -/
  | only {line : List Char} (h : '\n' ∉ line) : IsFirstLine line line
  | lineFeed {line : List Char} (rest : List Char) (h : '\n' ∉ line)
      (hreturn : line.getLast? ≠ some '\r') : IsFirstLine (line ++ '\n' :: rest) line
  | returnLineFeed {line : List Char} (rest : List Char) (h : '\n' ∉ line) :
      IsFirstLine (line ++ '\r' :: '\n' :: rest) line

section

variable {text line : List Char}

theorem IsFirstLine.newline_not_mem (h : IsFirstLine text line) : '\n' ∉ line := by
  cases h <;> assumption

theorem IsFirstLine.isPrefix (h : IsFirstLine text line) : line <+: text := by
  cases h with
  | only h => exact List.prefix_refl _
  | lineFeed rest h hreturn => exact List.prefix_append _ _
  | returnLineFeed rest h => exact List.prefix_append _ _

theorem takeWhile_line (h : '\n' ∉ line) (rest : List Char) :
    (line ++ rest).takeWhile (· ≠ '\n') = line ++ rest.takeWhile (· ≠ '\n') := by
  refine List.takeWhile_append_of_pos fun c hc => decide_eq_true ?_
  rintro rfl
  exact h hc

theorem firstLine_of_not_mem (h : '\n' ∉ text) : firstLine text = text := by
  have hline := takeWhile_line h []
  rw [List.append_nil, List.takeWhile_nil, List.append_nil] at hline
  simp only [firstLine, hline, Nat.lt_irrefl, false_and, if_false]

theorem firstLine_append (h : '\n' ∉ line) (rest : List Char) :
    firstLine (line ++ '\n' :: rest) =
      if line.getLast? = some '\r' then line.dropLast else line := by
  have hline := takeWhile_line h ('\n' :: rest)
  rw [List.takeWhile_cons_of_neg (by simp), List.append_nil] at hline
  have hlength : line.length < (line ++ '\n' :: rest).length := by simp
  simp only [firstLine, hline, hlength, true_and]

theorem isFirstLine_firstLine (text : List Char) : IsFirstLine text (firstLine text) := by
  by_cases h : '\n' ∈ text
  · obtain ⟨line, rest, rfl, hline⟩ := List.eq_append_cons_of_mem h
    rw [firstLine_append hline]
    split
    · rename_i hreturn
      obtain ⟨front, rfl⟩ := List.getLast?_eq_some_iff.1 hreturn
      rw [List.dropLast_concat, List.append_assoc]
      exact .returnLineFeed rest fun hmem => hline (List.mem_append_left _ hmem)
    · rename_i hreturn
      exact .lineFeed rest hline hreturn
  · rw [firstLine_of_not_mem h]
    exact .only h

/-- A text has one first line, and that is the one that is shown. -/
theorem isFirstLine_iff : IsFirstLine text line ↔ firstLine text = line := by
  constructor
  · intro h
    cases h with
    | only h => exact firstLine_of_not_mem h
    | lineFeed rest h hreturn => rw [firstLine_append h, if_neg hreturn]
    | returnLineFeed rest h =>
        have hreturn : '\n' ∉ line ++ ['\r'] := by simpa using h
        have htext := firstLine_append hreturn rest
        rwa [List.append_assoc, List.getLast?_concat, if_pos rfl, List.dropLast_concat] at htext
  · rintro rfl
    exact isFirstLine_firstLine text

end

/-! ### Cutting it -/

section

variable {limit : Nat} {text : String} {line : List Char}

theorem truncate_of_le (h : IsFirstLine text.toList line) (hlength : line.length ≤ limit) :
    truncate limit text = String.ofList line := by
  simp only [truncate, isFirstLine_iff.1 h, if_neg (Nat.not_lt.2 hlength)]

theorem truncate_of_lt (h : IsFirstLine text.toList line) (hlength : limit < line.length) :
    truncate limit text = String.ofList (line.take limit ++ ['…']) := by
  simp only [truncate, isFirstLine_iff.1 h, if_pos hlength]

/-- What is shown is the first line, or so many characters of it and the mark. -/
theorem truncate_cases (limit : Nat) (text : String) :
    ∃ line, IsFirstLine text.toList line ∧
      (line.length ≤ limit ∧ truncate limit text = String.ofList line ∨
        limit < line.length ∧ truncate limit text = String.ofList (line.take limit ++ ['…'])) := by
  have hline := isFirstLine_firstLine text.toList
  refine ⟨_, hline, ?_⟩
  rcases Nat.lt_or_ge limit (firstLine text.toList).length with hlong | hshort
  · exact .inr ⟨hlong, truncate_of_lt hline hlong⟩
  · exact .inl ⟨hshort, truncate_of_le hline hshort⟩

theorem newline_not_mem_truncate (limit : Nat) (text : String) :
    '\n' ∉ (truncate limit text).toList := by
  obtain ⟨line, hline, ⟨-, hshown⟩ | ⟨-, hshown⟩⟩ := truncate_cases limit text
  · rw [hshown, String.toList_ofList]
    exact hline.newline_not_mem
  · rw [hshown, String.toList_ofList]
    simpa using fun hmem => hline.newline_not_mem (List.mem_of_mem_take hmem)

theorem length_truncate_le (limit : Nat) (text : String) :
    (truncate limit text).length ≤ limit + 1 := by
  obtain ⟨line, -, ⟨hlength, hshown⟩ | ⟨-, hshown⟩⟩ := truncate_cases limit text
  · rw [hshown, String.length_ofList]
    omega
  · rw [hshown, String.length_ofList, List.length_append, List.length_take, List.length_singleton]
    omega

/-- What is shown once is shown in the same way again. -/
theorem truncate_truncate (limit : Nat) (text : String) :
    truncate limit (truncate limit text) = truncate limit text := by
  -- it is one line, so only its length counts
  have hagain := IsFirstLine.only (newline_not_mem_truncate limit text)
  obtain ⟨line, -, ⟨hlength, hshown⟩ | ⟨hlength, hshown⟩⟩ := truncate_cases limit text
  · rw [truncate_of_le hagain (by simpa [hshown] using hlength), String.ofList_toList]
  · have hfront : (line.take limit).length = limit := by
      rw [List.length_take]
      omega
    rw [truncate_of_lt hagain (by simp [hshown, hfront]), hshown, String.toList_ofList,
      List.take_left' hfront]

/-- The text is cut between two characters. -/
theorem exists_append_truncate (limit : Nat) (text : String) :
    ∃ front rest mark : String, text = front ++ rest ∧ truncate limit text = front ++ mark ∧
      front.length ≤ limit ∧ (mark = "" ∨ mark = "…" ∧ front.length = limit) := by
  obtain ⟨line, hline, hcases⟩ := truncate_cases limit text
  have hkept : ∀ front, front <+: line → ∃ rest, text = String.ofList front ++ rest := by
    intro front hfront
    obtain ⟨rest, hrest⟩ := hfront.trans hline.isPrefix
    exact ⟨String.ofList rest, by rw [← String.ofList_append, hrest, String.ofList_toList]⟩
  obtain ⟨hlength, hshown⟩ | ⟨hlength, hshown⟩ := hcases
  · obtain ⟨rest, hrest⟩ := hkept line (List.prefix_refl _)
    exact ⟨_, rest, "", hrest, by rw [hshown, String.append_empty], by simpa using hlength,
      .inl rfl⟩
  · have hfront : (String.ofList (line.take limit)).length = limit := by
      rw [String.length_ofList, List.length_take]
      omega
    obtain ⟨rest, hrest⟩ := hkept (line.take limit) (List.take_prefix _ _)
    exact ⟨_, rest, "…", hrest, by rw [hshown, String.ofList_append], Nat.le_of_eq hfront,
      .inr ⟨rfl, hfront⟩⟩

end

/-- What is shown of a text is one line, with at most one character more than the limit. It is the
first line without its line end, or as many characters of that as the limit allows with the mark
behind them. It is made of the bytes of whole characters, and it is shown again as it is. -/
theorem truncate_shows_first_line (limit : Nat) (text : String) :
    '\n' ∉ (truncate limit text).toList ∧
      (truncate limit text).length ≤ limit + 1 ∧
      (∃ line, IsFirstLine text.toList line ∧
        (line.length ≤ limit ∧ truncate limit text = String.ofList line ∨
          limit < line.length ∧
            truncate limit text = String.ofList (line.take limit ++ ['…']))) ∧
      (∃ front rest mark : String, Utf8.encode text = Utf8.encode front ++ Utf8.encode rest ∧
        Utf8.encode (truncate limit text) = Utf8.encode front ++ Utf8.encode mark ∧
        front.length ≤ limit ∧ (mark = "" ∨ mark = "…" ∧ front.length = limit)) ∧
      truncate limit (truncate limit text) = truncate limit text := by
  obtain ⟨front, rest, mark, htext, hshown, hcut⟩ := exists_append_truncate limit text
  refine ⟨newline_not_mem_truncate limit text, length_truncate_le limit text,
    truncate_cases limit text, ⟨front, rest, mark, ?_, ?_, hcut⟩, truncate_truncate limit text⟩
  · rw [htext, Utf8.encode_append]
  · rw [hshown, Utf8.encode_append]

example : truncate 2 "äö\r\nü" = "äö" ∧ truncate 2 "ä\rö\r\n" = "ä\r…" := by decide

end ClusterBundle.Console
