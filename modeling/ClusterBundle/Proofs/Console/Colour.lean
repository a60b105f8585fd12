import ClusterBundle.Console.Summary
import ClusterBundle.Proofs.Console.Unstyled

/-!
What colours change of what is printed.

A message with colours is the message without them once its styles are taken out, and so is a
banner. A table is not. The width of a cell is that of its text with the styles in it, so an outcome
that is printed in a colour takes nine columns that nobody sees. `outcomeTable` is a table with room
of its own for the outcomes and for the frame around them, and both of the tables that are printed
are of that kind: without colours there is the same room for both, and with colours the frame is
nine columns wider than the outcomes in it.
-/

namespace ClusterBundle.Console

/-! ### Messages -/

/-- What is printed, without the sequences that set a style. -/
def Printed.unstyled (printed : Printed) : Printed where
  stdout := String.ofList (Console.unstyled printed.stdout.toList)
  stderr := String.ofList (Console.unstyled printed.stderr.toList)

theorem unstyled_start (style : Style) (rest : List Char) :
    unstyled (style.start.toList ++ rest) = unstyled rest := by
  refine unstyled_of_behind ?_
  obtain ⟨colour, bold⟩ := style
  cases colour <;> cases bold <;> rfl

theorem unstyled_styleEnd (rest : List Char) :
    unstyled (styleEnd.toList ++ rest) = unstyled rest := unstyled_of_behind rfl

/-- What was painted is as if it had not been painted. -/
theorem unstyled_paint {style : Style} {text : String} (h : escape ∉ text.toList)
    (colours : Bool) (rest : List Char) :
    unstyled ((paint colours style text).toList ++ rest) = text.toList ++ unstyled rest := by
  cases colours with
  | false => exact unstyled_append h rest
  | true =>
      simp only [paint, if_true, String.toList_append, List.append_assoc]
      rw [unstyled_start, unstyled_append h, unstyled_styleEnd]

theorem escape_not_mem_mark (tone : Tone) : escape ∉ tone.mark.toList := by
  cases tone <;> decide

theorem unstyled_message (tone : Tone) (text : String) :
    (message true tone text).unstyled = (message false tone text).unstyled := by
  unfold message Printed.unstyled
  split <;> simp only [String.toList_append, List.append_assoc,
    unstyled_paint (escape_not_mem_mark tone)]

theorem isBreak_newline : IsBreak '\n' := ⟨by decide, by decide, by decide, by decide⟩

/-- A text that is empty or ends with its last line. -/
def IsEnded (text : String) : Prop := text = "" ∨ ∃ front, text = front ++ "\n"

theorem unstyled_append_of_isEnded {text : String} (h : IsEnded text) (rest : List Char) :
    unstyled (text.toList ++ rest) = unstyled text.toList ++ unstyled rest := by
  obtain rfl | ⟨front, rfl⟩ := h
  · simp
  · have hlast : ("\n" : String).toList = ['\n'] := rfl
    rw [String.toList_append, hlast, List.append_assoc, List.singleton_append,
      unstyled_break isBreak_newline, unstyled_break isBreak_newline]
    simp

theorem unstyled_append_printed {a : Printed} (hout : IsEnded a.stdout) (herr : IsEnded a.stderr)
    (b : Printed) : (a ++ b).unstyled = a.unstyled ++ b.unstyled := by
  show Printed.unstyled ⟨a.stdout ++ b.stdout, a.stderr ++ b.stderr⟩ =
    ⟨a.unstyled.stdout ++ b.unstyled.stdout, a.unstyled.stderr ++ b.unstyled.stderr⟩
  simp only [Printed.unstyled, String.toList_append, unstyled_append_of_isEnded hout,
    unstyled_append_of_isEnded herr, String.ofList_append]

theorem unstyled_message_append (colours : Bool) (tone : Tone) (text : String) (rest : Printed) :
    (message colours tone text ++ rest).unstyled =
      (message colours tone text).unstyled ++ rest.unstyled := by
  refine unstyled_append_printed ?_ ?_ rest
  all_goals
    unfold message
    dsimp only
    split
  · exact .inl rfl
  · exact .inr ⟨_, rfl⟩
  · exact .inr ⟨_, rfl⟩
  · exact .inl rfl

theorem unstyled_banner (report : Report) :
    (banner true report).unstyled = (banner false report).unstyled := by
  unfold banner
  dsimp only
  split <;> split <;> simp only [unstyled_message_append, unstyled_message]

/-! ### Tables of outcomes -/

/-- The lines of a row that begins with an outcome. There are `inner` columns for the outcome, which
is in the first line, and `frame` columns below it. -/
def outcomeLines (frame inner : Nat) (others : List Nat) (row : List String) : List (List Char) :=
  let height := (row.map cellHeight).foldl max 1
  (List.range height).map fun index =>
    rowLine ((if index = 0 then inner else frame) :: others) row index

/-- A table of outcomes in which the outcomes are filled up to `inner` columns, and everything above
and below them to `frame` columns. -/
def outcomeTable (frame inner : Nat) (head : List String)
    (rows : List (Outcome × List String)) : String :=
  let others := columnWidths (head :: rows.map Prod.snd)
  let widths := frame :: others
  let lines :=
    [rule '╭' '┬' '╮' widths] ++ rowLines widths ("Outcome" :: head) ++
      [rule '├' '┼' '┤' widths] ++
      rows.flatMap (fun row => outcomeLines frame inner others (row.1.text :: row.2)) ++
      [rule '╰' '┴' '╯' widths]
  String.ofList (List.intercalate ['\n'] lines)

/-- The columns of the widest outcome. -/
def widest (rows : List (Outcome × List String)) : Nat :=
  (rows.map fun row => row.1.text.length).foldl max 0

/-! The first column. -/

section

variable {α : Type} (cell : α → String) (others : α → List String)

theorem foldl_zipWith_cons (rows : List α) (first : Nat) (widths : List Nat) :
    (rows.map fun row => cell row :: others row).foldl
        (fun widths row => List.zipWith max widths (row.map cellWidth)) (first :: widths) =
      (rows.map fun row => cellWidth (cell row)).foldl max first ::
        (rows.map others).foldl (fun widths row => List.zipWith max widths (row.map cellWidth))
          widths := by
  induction rows generalizing first widths with
  | nil => rfl
  | cons row rows ih => simpa using ih _ _

/-- The width of the first column is that of its own cells. -/
theorem columnWidths_cons (first : String) (head : List String) (rows : List α) :
    columnWidths ((first :: head) :: rows.map fun row => cell row :: others row) =
      (rows.map fun row => cellWidth (cell row)).foldl max (cellWidth first) ::
        columnWidths (head :: rows.map others) := by
  simpa [columnWidths] using foldl_zipWith_cons cell others rows (cellWidth first) _

end

theorem foldl_max_of_le {widths : List Nat} {limit : Nat} (h : ∀ n ∈ widths, n ≤ limit) :
    widths.foldl max limit = limit := by
  induction widths with
  | nil => rfl
  | cons n widths ih =>
      rw [List.foldl_cons, Nat.max_eq_left (h n (by simp))]
      exact ih fun m hm => h m (by simp [hm])

theorem foldl_max_add (widths : List Nat) (hidden first : Nat) :
    (widths.map (· + hidden)).foldl max (first + hidden) = widths.foldl max first + hidden := by
  induction widths generalizing first with
  | nil => rfl
  | cons n widths ih =>
      rw [List.map_cons, List.foldl_cons, List.foldl_cons, Nat.add_max_add_right, ih]

theorem rowLine_cons (columnWidth : Nat) (widths : List Nat) (cell : String) (row : List String)
    (index : Nat) :
    rowLine (columnWidth :: widths) (cell :: row) index =
      '│' :: ' ' :: (fill columnWidth ((cellLines cell).getD index []) ++
        ' ' :: rowLine widths row index) := by
  simp [rowLine]

/-! The cell of an outcome. -/

theorem cellLines_outcomeText (colours : Bool) (outcome : Outcome) :
    cellLines (outcomeText colours outcome) = [(outcomeText colours outcome).toList] := by
  cases colours <;> cases outcome <;> decide +kernel

theorem width_outcomeText (colours : Bool) (outcome : Outcome) :
    width (outcomeText colours outcome).toList =
      outcome.text.length + if colours then 9 else 0 := by
  cases colours <;> cases outcome <;> decide +kernel

theorem cellWidth_outcomeText (colours : Bool) (outcome : Outcome) :
    cellWidth (outcomeText colours outcome) =
      outcome.text.length + if colours then 9 else 0 := by
  simp [cellWidth, cellLines_outcomeText, width_outcomeText]

theorem length_outcome_le (outcome : Outcome) : outcome.text.length ≤ 7 := by
  cases outcome <;> decide

theorem escape_not_mem_outcome (outcome : Outcome) : escape ∉ outcome.text.toList := by
  cases outcome <;> decide

/-- The table that is printed of some outcomes. -/
def printedTable (colours : Bool) (head : List String) (rows : List (Outcome × List String)) :
    String :=
  table ("Outcome" :: head) (rows.map fun row => outcomeText colours row.1 :: row.2)

theorem columnWidths_printed (colours : Bool) (head : List String)
    (rows : List (Outcome × List String)) :
    columnWidths (("Outcome" :: head) :: rows.map fun row => outcomeText colours row.1 :: row.2) =
      (rows.map fun row => row.1.text.length + if colours then 9 else 0).foldl max 7 ::
        columnWidths (head :: rows.map Prod.snd) := by
  rw [columnWidths_cons (fun row => outcomeText colours row.1) Prod.snd]
  simp only [cellWidth_outcomeText]
  have hhead : cellWidth "Outcome" = 7 := by decide +kernel
  rw [hhead]

/-- Without colours the outcomes and the frame around them have the same room. -/
theorem printedTable_plain (head : List String) (rows : List (Outcome × List String)) :
    printedTable false head rows = outcomeTable 7 7 head rows := by
  have hfirst :
      (rows.map fun row => row.1.text.length + if false then 9 else 0).foldl max 7 = 7 := by
    refine foldl_max_of_le fun n hn => ?_
    obtain ⟨row, -, rfl⟩ := List.mem_map.1 hn
    simpa using length_outcome_le row.1
  unfold printedTable table outcomeTable
  dsimp only
  rw [columnWidths_printed, hfirst, List.flatMap_map]
  have hrow : ∀ row : Outcome × List String,
      rowLines (7 :: columnWidths (head :: rows.map Prod.snd)) (outcomeText false row.1 :: row.2) =
        outcomeLines 7 7 (columnWidths (head :: rows.map Prod.snd)) (row.1.text :: row.2) := by
    intro row
    simp only [rowLines, outcomeLines, ite_self]
    rfl
  simp only [hrow]

theorem fill_outcomeText (colours : Bool) (columnWidth : Nat) (outcome : Outcome) :
    fill (columnWidth + if colours then 9 else 0) (outcomeText colours outcome).toList =
      (outcomeText colours outcome).toList ++
        List.replicate (columnWidth - outcome.text.length) ' ' := by
  rw [fill, width_outcomeText, Nat.add_sub_add_right]

/-- The frame of the outcomes is wider than what is seen of them in their own lines. -/
theorem unstyled_rowLine (columnWidth : Nat) (others : List Nat) (outcome : Outcome)
    (cells : List String) (index : Nat) :
    unstyled (rowLine ((columnWidth + 9) :: others) (outcomeText true outcome :: cells) index) =
      unstyled (rowLine ((if index = 0 then columnWidth else columnWidth + 9) :: others)
        (outcome.text :: cells) index) := by
  have hcoloured := cellLines_outcomeText true outcome
  have hplain : cellLines outcome.text = [outcome.text.toList] :=
    cellLines_outcomeText false outcome
  rw [rowLine_cons, rowLine_cons, hcoloured, hplain]
  cases index with
  | succ index => rfl
  | zero =>
      have hfill := fill_outcomeText true columnWidth outcome
      have hbare : fill columnWidth outcome.text.toList = outcome.text.toList ++
          List.replicate (columnWidth - outcome.text.length) ' ' :=
        fill_outcomeText false columnWidth outcome
      simp only [if_true] at hfill
      have hbar : ∀ rest, unstyled ('│' :: ' ' :: rest) = '│' :: ' ' :: unstyled rest := by
        intro rest
        rw [unstyled_cons (behindStyle?_of_ne (by decide)),
          unstyled_cons (behindStyle?_of_ne (by decide))]
      simp only [List.getD_cons_zero, if_true, hfill, hbare, hbar, List.append_assoc]
      rw [outcomeText, unstyled_paint (escape_not_mem_outcome outcome),
        unstyled_append (escape_not_mem_outcome outcome)]

theorem unstyled_rowLines (columnWidth : Nat) (others : List Nat) (outcome : Outcome)
    (cells : List String) :
    (rowLines ((columnWidth + 9) :: others) (outcomeText true outcome :: cells)).map unstyled =
      (outcomeLines (columnWidth + 9) columnWidth others (outcome.text :: cells)).map unstyled := by
  have hheight : cellHeight (outcomeText true outcome) = cellHeight outcome.text := by
    have hplain : cellLines outcome.text = [outcome.text.toList] :=
      cellLines_outcomeText false outcome
    rw [cellHeight, cellHeight, cellLines_outcomeText, hplain]
    rfl
  simp only [rowLines, outcomeLines, List.map_map, List.map_cons, hheight]
  exact List.map_congr_left fun index _ => unstyled_rowLine columnWidth others outcome cells index

/-- Lines are read one by one. -/
theorem unstyled_intercalate (lines : List (List Char)) :
    unstyled (List.intercalate ['\n'] lines) =
      List.intercalate ['\n'] (lines.map unstyled) := by
  induction lines with
  | nil => simp
  | cons line lines ih =>
      cases lines with
      | nil => simp
      | cons next lines =>
          rw [List.intercalate_cons_cons, List.map_cons, List.map_cons,
            List.intercalate_cons_cons, ← List.map_cons, ← ih, List.append_assoc,
            List.singleton_append, unstyled_break isBreak_newline]
          simp

theorem foldl_widths_coloured {rows : List (Outcome × List String)} (h : rows ≠ []) :
    (rows.map fun row => row.1.text.length + if true then 9 else 0).foldl max 7 =
      widest rows + 9 := by
  obtain ⟨row, rows, rfl⟩ := List.exists_cons_of_ne_nil h
  have hlengths := foldl_max_add (rows.map fun row => row.1.text.length) 9 row.1.text.length
  rw [List.map_map, Function.comp_def] at hlengths
  simpa [widest, Nat.max_eq_right (show 7 ≤ row.1.text.length + 9 by omega)] using hlengths

/-- With colours the frame around the outcomes is nine columns wider than the outcomes. -/
theorem unstyled_printedTable (head : List String) {rows : List (Outcome × List String)}
    (h : rows ≠ []) :
    unstyled (printedTable true head rows).toList =
      unstyled (outcomeTable (widest rows + 9) (widest rows) head rows).toList := by
  unfold printedTable table outcomeTable
  dsimp only
  rw [columnWidths_printed, foldl_widths_coloured h, String.toList_ofList, String.toList_ofList,
    unstyled_intercalate, unstyled_intercalate]
  simp only [List.map_append, List.map_flatMap, List.flatMap_map, unstyled_rowLines]

/-! ### The tally -/

/-- The outcomes with their numbers. -/
def countCells (tally : Tally) : List (Outcome × List String) :=
  [(.written, [toString tally.written]), (.skipped, [toString tally.skipped]),
    (.failed, [toString tally.failed])]

/-- The records, each with its outcome in front. -/
def recordCells (tally : Tally) : List (Outcome × List String) :=
  tally.records.map fun r => (r.outcome, [r.step.text, truncate reasonLimit r.reason])

/-- The tables of a tally, given how a table is made of some outcomes. -/
def tallyText (make : (head : List String) → List (Outcome × List String) → String)
    (tally : Tally) : String :=
  let counts := make ["Calls"] (countCells tally) ++ "\n"
  if tally.records.isEmpty then counts
  else counts ++ (make ["Step", "Reason"] (recordCells tally) ++ "\n")

theorem tallyTables_eq (colours : Bool) (tally : Tally) :
    tallyTables colours tally = { stdout := tallyText (printedTable colours) tally } := by
  have hrecords : recordRows colours tally =
      (recordCells tally).map fun row => outcomeText colours row.1 :: row.2 := by
    rw [recordRows, recordCells, List.map_map]
    rfl
  unfold tallyTables tallyText
  dsimp only
  rw [hrecords]
  split <;> rfl

/-- Tables that are the same without their styles make up the same text of a tally. -/
theorem unstyled_tallyText {make other : List String → List (Outcome × List String) → String}
    (h : ∀ head rows, rows ≠ [] →
      unstyled (make head rows).toList = unstyled (other head rows).toList) (tally : Tally) :
    unstyled (tallyText make tally).toList = unstyled (tallyText other tally).toList := by
  have hline : ∀ head rows rest same, rows ≠ [] → unstyled rest = unstyled same →
      unstyled ((make head rows ++ "\n").toList ++ rest) =
        unstyled ((other head rows ++ "\n").toList ++ same) := by
    intro head rows rest same hrows hsame
    have hlast : ("\n" : String).toList = ['\n'] := rfl
    simp only [String.toList_append, hlast, List.append_assoc, List.singleton_append,
      unstyled_break isBreak_newline, h head rows hrows, hsame]
  have hcounts : countCells tally ≠ [] := by simp [countCells]
  unfold tallyText
  dsimp only
  split
  · simpa using hline ["Calls"] (countCells tally) [] [] hcounts rfl
  · rename_i hrecords
    have hrows : recordCells tally ≠ [] := by simpa [recordCells] using hrecords
    have hlast := hline ["Step", "Reason"] (recordCells tally) [] [] hrows rfl
    simpa using hline ["Calls"] (countCells tally) _ _ hcounts hlast

/-- A table begins with the upper end of its frame. -/
theorem outcomeTable_top (frame inner : Nat) (head : List String)
    (rows : List (Outcome × List String)) :
    ∃ rest, (outcomeTable frame inner head rows).toList =
      rule '╭' '┬' '╮' (frame :: columnWidths (head :: rows.map Prod.snd)) ++ rest := by
  unfold outcomeTable
  dsimp only
  rw [String.toList_ofList, List.append_assoc, List.append_assoc, List.append_assoc,
    List.singleton_append, List.intercalate_cons_of_ne_nil (by simp), List.append_assoc]
  exact ⟨_, rfl⟩

/-- The first frame of a tally has the room that there is for its outcomes. -/
theorem tallyText_top (frame inner : List (Outcome × List String) → Nat) (tally : Tally) :
    ∃ rest, (tallyText (fun head rows => outcomeTable (frame rows) (inner rows) head rows)
        tally).toList =
      '╭' :: (List.replicate (frame (countCells tally) + 2) '─' ++ '┬' :: rest) := by
  obtain ⟨calls, hcalls⟩ : ∃ calls,
      columnWidths (["Calls"] :: (countCells tally).map Prod.snd) = [calls] := ⟨_, rfl⟩
  obtain ⟨rest, hrest⟩ := outcomeTable_top (frame (countCells tally)) (inner (countCells tally))
    ["Calls"] (countCells tally)
  rw [hcalls] at hrest
  unfold tallyText
  dsimp only
  split <;>
  · simp only [String.toList_append, hrest, rule, List.map_cons, List.map_nil,
      List.intercalate_cons_cons, List.cons_append, List.nil_append, List.append_assoc]
    exact ⟨_, rfl⟩

/-- What colours make of the tables of a tally. -/
theorem unstyled_tallyTables (tally : Tally) :
    (tallyTables true tally).unstyled =
      Printed.unstyled { stdout := tallyText (fun head rows =>
        outcomeTable (widest rows + 9) (widest rows) head rows) tally } := by
  rw [tallyTables_eq]
  simp only [Printed.unstyled, Printed.mk.injEq, String.ofList_inj, and_true]
  exact unstyled_tallyText (fun head rows hrows => unstyled_printedTable head hrows) tally

theorem tallyTables_plain (tally : Tally) :
    tallyTables false tally = { stdout := tallyText (outcomeTable 7 7) tally } := by
  have hplain : printedTable false = outcomeTable 7 7 :=
    funext fun head => funext fun rows => printedTable_plain head rows
  rw [tallyTables_eq, hplain]

/-- The frame is never the same with and without colours. -/
theorem unstyled_tallyTables_ne (tally : Tally) :
    (tallyTables true tally).unstyled ≠ (tallyTables false tally).unstyled := by
  rw [unstyled_tallyTables, tallyTables_plain]
  obtain ⟨rest, hwide⟩ := tallyText_top (fun rows => widest rows + 9) widest tally
  obtain ⟨more, hplain⟩ := tallyText_top (fun _ => 7) (fun _ => 7) tally
  have htop : ∀ columns (behind : List Char),
      unstyled ('╭' :: (List.replicate columns '─' ++ '┬' :: behind)) =
        '╭' :: (List.replicate columns '─' ++ '┬' :: unstyled behind) := by
    intro columns behind
    have hescape : escape ∉ '╭' :: (List.replicate columns '─' ++ ['┬']) := by
      simp [List.mem_replicate, escape]
    simpa using unstyled_append hescape behind
  have hwidest : widest (countCells tally) = 7 := by
    show ["written".length, "skipped".length, "failed".length].foldl max 0 = 7
    decide
  intro h
  have htext := String.ofList_inj.1 (congrArg Printed.stdout h)
  simp only [hwide, hplain, htop, hwidest] at htext
  -- the tenth column belongs to the frame of the one and is its corner in the other
  have hcorner := congrArg (fun text => text[10]?) htext
  simp at hcorner

/-- What colours change of what is printed. A message and a banner are the same but for their
styles. The tables of a tally are not: without colours there are seven columns for the outcomes, but
with colours there are as many as the widest of them has, and nine more wherever the frame goes
around them. -/
theorem colours_widen_frame (tone : Tone) (text : String) (report : Report) (tally : Tally) :
    (message true tone text).unstyled = (message false tone text).unstyled ∧
      (banner true report).unstyled = (banner false report).unstyled ∧
      tallyTables false tally = { stdout := tallyText (outcomeTable 7 7) tally } ∧
      (tallyTables true tally).unstyled =
        Printed.unstyled { stdout := tallyText (fun head rows =>
          outcomeTable (widest rows + 9) (widest rows) head rows) tally } :=
  ⟨unstyled_message tone text, unstyled_banner report, tallyTables_plain tally,
    unstyled_tallyTables tally⟩

/-- The tally of one step that wrote something and one that did not. -/
def mixedTally : Tally :=
  ({} : Tally).addWritten.addSkipped { action := "get", kind := "k", name := "n" } "r" none

/-- This tally is not the same with and without colours. -/
theorem colours_move_frame :
    (tallyTables true mixedTally).unstyled ≠ (tallyTables false mixedTally).unstyled :=
  unstyled_tallyTables_ne mixedTally

end ClusterBundle.Console
