import ClusterBundle.File.Path

/-!
Paths by their components.

Where a path leads depends on its components alone. Everything that is done with the text of a path
before it is used, taking its parents, its last name or joining a name to it, is read here as
something done to the list of components.
-/

namespace ClusterBundle

namespace Text

/-- The parts of a split text have all its characters but the marks. -/
theorem flatten_splitChars (mark : Char) (text : List Char) :
    (splitChars mark text).flatten = text.filter (· ≠ mark) := by
  induction text with
  | nil => rfl
  | cons c rest ih =>
      cases hrest : splitChars mark rest with
      | nil => exact absurd hrest (splitChars_ne_nil mark rest)
      | cons part parts =>
          rw [hrest] at ih
          by_cases hc : c = mark
          · simpa [splitChars, hrest, hc] using ih
          · simpa [splitChars, hrest, hc] using ih

theorem exists_mem_splitChars_iff {mark c : Char} {text : List Char} :
    (∃ part ∈ splitChars mark text, c ∈ part) ↔ c ∈ text ∧ c ≠ mark := by
  rw [← List.mem_flatten, flatten_splitChars, List.mem_filter, decide_eq_true_iff]

theorem not_mem_of_mem_splitChars {mark : Char} {text part : List Char}
    (h : part ∈ splitChars mark text) : mark ∉ part :=
  fun hmark => (exists_mem_splitChars_iff.1 ⟨part, h, hmark⟩).2 rfl

theorem splitChars_of_not_mem {mark : Char} {text : List Char} (h : mark ∉ text) :
    splitChars mark text = [text] := by
  induction text with
  | nil => rfl
  | cons c rest ih =>
      obtain ⟨hc, hrest⟩ := not_or.1 (mt List.mem_cons.2 h)
      simp only [splitChars, ih hrest, if_neg (Ne.symm hc)]

theorem toList_joinWith_cons_cons (mark text next : String) (rest : List String) :
    (joinWith mark (text :: next :: rest)).toList =
      text.toList ++ (mark.toList ++ (joinWith mark (next :: rest)).toList) := by
  rw [joinWith, String.toList_append, String.toList_append, List.append_assoc]
  exact List.cons_ne_nil _ _

/-- Fewer texts join to a text in front. -/
theorem joinWith_prefix {mark : String} {front texts : List String} (h : front <+: texts) :
    (joinWith mark front).toList <+: (joinWith mark texts).toList := by
  induction front generalizing texts with
  | nil => exact List.nil_prefix
  | cons text front ih =>
      cases texts with
      | nil => exact absurd h (by simp)
      | cons first texts =>
          obtain ⟨rfl, hrest⟩ := List.cons_prefix_cons.1 h
          cases texts with
          | nil =>
              obtain rfl := List.prefix_nil.1 hrest
              exact List.prefix_refl _
          | cons next texts =>
              rw [toList_joinWith_cons_cons]
              cases front with
              | nil => exact List.prefix_append _ _
              | cons second front =>
                  rw [toList_joinWith_cons_cons]
                  exact (List.prefix_append_right_inj _).2
                    ((List.prefix_append_right_inj _).2 (ih hrest))

/-- The parts of a split text join to the text. -/
theorem toList_joinWith_splitChars (mark : Char) (text : List Char) :
    (joinWith (String.ofList [mark]) ((splitChars mark text).map String.ofList)).toList = text := by
  induction text with
  | nil => rfl
  | cons c rest ih =>
      cases hrest : splitChars mark rest with
      | nil => exact absurd hrest (splitChars_ne_nil mark rest)
      | cons part parts =>
          rw [hrest, List.map_cons] at ih
          by_cases hc : c = mark
          · have hsplit : splitChars mark (c :: rest) = [] :: part :: parts := by
              simp [splitChars, hrest, hc]
            rw [hsplit, List.map_cons, List.map_cons, toList_joinWith_cons_cons, ih]
            simp [hc]
          · have hsplit : splitChars mark (c :: rest) = (c :: part) :: parts := by
              simp [splitChars, hrest, hc]
            rw [hsplit, List.map_cons]
            cases parts with
            | nil =>
                have hpart : part = rest := by simpa [joinWith] using ih
                simp [joinWith, hpart]
            | cons next parts =>
                rw [List.map_cons, toList_joinWith_cons_cons] at ih ⊢
                rw [← ih, @String.toList_ofList part, @String.toList_ofList (c :: part),
                  List.cons_append]

end Text

namespace Path

/-- A text that is one piece of a path: there is no slash in it. -/
def IsPiece (text : String) : Prop := '/' ∉ text.toList

instance (text : String) : Decidable (IsPiece text) := inferInstanceAs (Decidable (¬ _))

theorem isPiece_of_mem_pieces {path piece : String} (h : piece ∈ pieces path) : IsPiece piece := by
  obtain ⟨part, hpart, rfl⟩ := List.mem_map.1 h
  unfold IsPiece
  rw [String.toList_ofList]
  exact Text.not_mem_of_mem_splitChars hpart

theorem pieces_of_isPiece {piece : String} (h : IsPiece piece) : pieces piece = [piece] := by
  simp [pieces, Text.split, Text.splitChars_of_not_mem h]

theorem pieces_append_slash (front rest : String) :
    pieces (front ++ "/" ++ rest) = pieces front ++ pieces rest := by
  simp [pieces, Text.split, String.toList_append, Text.splitChars_append_cons]

theorem pieces_of_slash {path : String} {rest : List Char} (h : path.toList = '/' :: rest) :
    pieces path = "" :: (Text.splitChars '/' rest).map String.ofList := by
  have hsplit := Text.splitChars_append_cons '/' [] rest
  simp only [List.nil_append] at hsplit
  simp [pieces, Text.split, h, hsplit, Text.splitChars]

/-- Joined pieces are the pieces of what they are joined to. -/
theorem pieces_joinWith {texts : List String} (hsome : texts ≠ [])
    (h : ∀ text ∈ texts, IsPiece text) : pieces (Text.joinWith "/" texts) = texts := by
  induction texts with
  | nil => exact absurd rfl hsome
  | cons text rest ih =>
      obtain ⟨htext, hrest⟩ := List.forall_mem_cons.1 h
      cases rest with
      | nil => exact pieces_of_isPiece htext
      | cons next rest =>
          rw [Text.joinWith, pieces_append_slash, pieces_of_isPiece htext,
            ih (List.cons_ne_nil _ _) hrest, List.singleton_append]
          exact List.cons_ne_nil _ _

theorem mem_components {path name : String} (h : name ∈ components path) :
    IsPiece name ∧ isIdle name = false := by
  obtain ⟨hpiece, hidle⟩ := List.mem_filter.1 h
  exact ⟨isPiece_of_mem_pieces hpiece, by simpa using hidle⟩

/-- A path with components is not empty. -/
theorem ne_empty_of_components {path name : String} {names : List String}
    (h : components path = names ++ [name]) : path ≠ "" := by
  rintro rfl
  have hnone : components "" = [] := rfl
  simp [hnone] at h

theorem isPiece_append {front rest : String} (hfront : IsPiece front) (hrest : IsPiece rest) :
    IsPiece (front ++ rest) := by
  unfold IsPiece
  rw [String.toList_append, List.mem_append]
  exact not_or.2 ⟨hfront, hrest⟩

theorem isAbsolute_iff {path : String} :
    isAbsolute path = true ↔ ∃ rest, path.toList = '/' :: rest := by
  unfold isAbsolute Text.isPrefixOf
  rw [List.isPrefixOf_iff_prefix]
  constructor
  · rintro ⟨rest, hrest⟩
    exact ⟨rest, hrest.symm⟩
  · rintro ⟨rest, hrest⟩
    exact ⟨rest, hrest.symm⟩

/-- Only a path with a slash in it can be absolute. -/
theorem not_isAbsolute_of_isPiece {piece : String} (h : IsPiece piece) :
    isAbsolute piece = false := by
  rw [Bool.eq_false_iff]
  intro habsolute
  obtain ⟨rest, hrest⟩ := isAbsolute_iff.1 habsolute
  exact h (hrest ▸ List.mem_cons_self)

theorem isAbsolute_slash_append (path : String) : isAbsolute ("/" ++ path) = true := by
  rw [isAbsolute_iff]
  exact ⟨path.toList, by rw [String.toList_append]; rfl⟩

/-- A relative path below an absolute one is absolute. -/
theorem isAbsolute_join {base : String} (hbase : isAbsolute base = true) (path : String) :
    isAbsolute (join base path) = true := by
  obtain ⟨rest, hrest⟩ := isAbsolute_iff.1 hbase
  unfold join
  split
  · assumption
  · split
    · rw [isAbsolute_iff, String.toList_append, hrest]
      exact ⟨_, rfl⟩
    · rw [isAbsolute_iff, String.toList_append, String.toList_append, hrest]
      exact ⟨_, rfl⟩

theorem not_isAbsolute_join {base path : String} (hbase : isAbsolute base = false)
    (hpath : isAbsolute path = false) : isAbsolute (join base path) = false := by
  rw [Bool.eq_false_iff] at hbase ⊢
  intro h
  obtain ⟨rest, hrest⟩ := isAbsolute_iff.1 h
  rw [join, if_neg (by simp [hpath])] at hrest
  -- the first character is that of the base, unless there is none
  cases htext : base.toList with
  | nil =>
      obtain rfl : base = "" := String.toList_inj.1 htext
      rw [if_pos (by simp), String.toList_append, htext] at hrest
      rw [isAbsolute_iff.2 ⟨rest, hrest⟩] at hpath
      cases hpath
  | cons first others =>
      have hfirst : first = '/' := by
        split at hrest <;> simp only [String.toList_append, htext] at hrest
        · exact (List.cons.inj hrest).1
        · exact (List.cons.inj hrest).1
      exact hbase (isAbsolute_iff.2 ⟨others, by rw [htext, hfirst]⟩)

/-! ### Steps

The pieces between doubled slashes do not count at all; a `.` stays where it is, but only where
something is. So the components are the steps without such pieces. -/

/-- The pieces of a path without the empty ones. -/
def steps (path : String) : List String := (pieces path).filter (· ≠ "")

theorem filter_steps (path : String) : (steps path).filter (· ≠ ".") = components path := by
  rw [steps, List.filter_filter]
  refine List.filter_congr fun piece _ => ?_
  simp [isIdle, Bool.and_comm]

theorem steps_append_slash (base path : String) :
    steps (base ++ "/" ++ path) = steps base ++ steps path := by
  rw [steps, pieces_append_slash, List.filter_append, steps, steps]

theorem steps_slash_append (path : String) : steps ("/" ++ path) = steps path := by
  have hslash : "/" ++ path = "" ++ "/" ++ path := by rw [String.empty_append]
  rw [hslash, steps_append_slash]
  rfl

theorem steps_of_isPiece {piece : String} (h : IsPiece piece) :
    steps piece = [piece].filter (· ≠ "") := by
  rw [steps, pieces_of_isPiece h]

theorem components_of_isPiece {piece : String} (h : IsPiece piece) (hidle : isIdle piece = false) :
    components piece = [piece] := by
  rw [components, pieces_of_isPiece h, List.filter_cons_of_pos (by simp [hidle]), List.filter_nil]

/-- A relative path adds its steps to those of the base. -/
theorem steps_join (base path : String) (h : isAbsolute path = false) :
    steps (join base path) = steps base ++ steps path := by
  unfold join
  rw [if_neg (by simp [h])]
  split
  · rename_i hbase
    simp only [Bool.or_eq_true, decide_eq_true_eq, endsWithSlash_iff] at hbase
    rcases hbase with rfl | ⟨front, hfront⟩
    · rw [String.empty_append]
      rfl
    · have hslash : base = String.ofList front ++ "/" := by
        rw [← String.toList_inj, String.toList_append, hfront, String.toList_ofList]
        rfl
      have hends : steps (String.ofList front ++ "/" ++ "") = steps (String.ofList front) := by
        rw [steps_append_slash]
        exact List.append_nil _
      rw [hslash, steps_append_slash, ← hends, String.append_empty]
  · exact steps_append_slash base path

theorem steps_joinWith {texts : List String} (h : ∀ text ∈ texts, IsPiece text) :
    steps (Text.joinWith "/" texts) = texts.filter (· ≠ "") := by
  by_cases hnone : texts = []
  · rw [hnone]
    rfl
  · rw [steps, pieces_joinWith hnone h]

theorem steps_ofReversed {absolute : Bool} {reversed : List String}
    (h : ∀ piece ∈ reversed, IsPiece piece) :
    steps (ofReversed absolute reversed) = (reversed.filter (· ≠ "")).reverse := by
  have hjoined : steps (Text.joinWith "/" reversed.reverse) =
      (reversed.filter (· ≠ "")).reverse := by
    rw [steps_joinWith fun piece hpiece => h piece (List.mem_reverse.1 hpiece),
      List.filter_reverse]
  cases absolute with
  | true => exact (steps_slash_append _).trans hjoined
  | false =>
      unfold ofReversed
      rw [if_neg (by simp), String.empty_append, hjoined]

theorem filter_ne_idle (reversed : List String) :
    (reversed.filter (· ≠ "")).filter (· ≠ ".") = reversed.filter fun p => !isIdle p := by
  rw [List.filter_filter]
  refine List.filter_congr fun piece _ => ?_
  simp [isIdle, Bool.and_comm]

theorem components_ofReversed {absolute : Bool} {reversed : List String}
    (h : ∀ piece ∈ reversed, IsPiece piece) :
    components (ofReversed absolute reversed) =
      (reversed.filter fun p => !isIdle p).reverse := by
  rw [← filter_steps, steps_ofReversed h, List.filter_reverse, filter_ne_idle]

theorem isPiece_of_mem_reversedPieces {path piece : String} (h : piece ∈ reversedPieces path) :
    IsPiece piece := by
  have hmem := List.mem_reverse.1 h
  split at hmem
  · exact isPiece_of_mem_pieces (List.mem_of_mem_drop hmem)
  · exact isPiece_of_mem_pieces hmem

theorem filter_reversedPieces (path : String) :
    (reversedPieces path).filter (fun p => !isIdle p) = (components path).reverse := by
  unfold reversedPieces components
  rw [List.filter_reverse]
  congr 1
  split
  · rename_i habsolute
    obtain ⟨rest, hrest⟩ := isAbsolute_iff.1 habsolute
    rw [pieces_of_slash hrest]
    rfl
  · rfl

/-! ### Parents -/

/-- The paths stand in a row, each of them the directory around the one before, up to one without
components. Behind the first one all are absolute if they are said to be. -/
inductive Outward (absolute : Bool) : List String → Prop where
  | last {path : String} (h : components path = []) : Outward absolute [path]
  | cons {path around : String} {rest : List String} (name : String)
      (h : components path = components around ++ [name])
      (habsolute : absolute = true → isAbsolute around = true)
      (outward : Outward absolute (around :: rest)) : Outward absolute (path :: around :: rest)

theorem filter_dropWhile_idle (reversed : List String) :
    (reversed.dropWhile isIdle).filter (fun p => !isIdle p) =
      reversed.filter fun p => !isIdle p := by
  induction reversed with
  | nil => rfl
  | cons piece rest ih =>
      cases hidle : isIdle piece with
      | true =>
          rw [List.dropWhile_cons_of_pos hidle, ih, List.filter_cons_of_neg (by simp [hidle])]
      | false => rw [List.dropWhile_cons_of_neg (by simp [hidle])]

theorem outward_parentPieces {absolute : Bool} {reversed : List String} {path : String}
    (hpieces : ∀ piece ∈ reversed, IsPiece piece)
    (hpath : components path = (reversed.filter fun p => !isIdle p).reverse) :
    Outward absolute (path :: (parentPieces reversed).map (ofReversed absolute)) := by
  induction reversed generalizing path with
  | nil => exact .last hpath
  | cons piece rest ih =>
      obtain ⟨-, hrest⟩ := List.forall_mem_cons.1 hpieces
      unfold parentPieces
      cases hidle : isIdle piece with
      | true =>
          -- an idle piece is passed over, the path has the same components without it
          rw [List.filter_cons_of_neg (by simp [hidle])] at hpath
          rw [if_pos rfl]
          exact ih hrest hpath
      | false =>
          rw [List.filter_cons_of_pos (by simp [hidle]), List.reverse_cons] at hpath
          rw [if_neg (by simp), List.map_cons]
          have haround : components (ofReversed absolute (rest.dropWhile isIdle)) =
              (rest.filter fun p => !isIdle p).reverse := by
            rw [components_ofReversed fun p hp => hrest p (List.dropWhile_subset _ hp),
              filter_dropWhile_idle]
          refine .cons piece (haround ▸ hpath) ?_ (ih hrest haround)
          rintro rfl
          exact isAbsolute_slash_append _

theorem outward_parents (path : String) : Outward (isAbsolute path) (path :: parents path) := by
  refine outward_parentPieces (fun piece => isPiece_of_mem_reversedPieces) ?_
  rw [filter_reversedPieces, List.reverse_reverse]

/-- The parent of a path with components has all of them but the last. -/
theorem parent?_eq_some {path : String} {names : List String} {name : String}
    (h : components path = names ++ [name]) :
    ∃ around, parent? path = some around ∧ components around = names ∧
      (isAbsolute path = true → isAbsolute around = true) := by
  unfold parent?
  cases hparents : parents path with
  | nil =>
      have hlast := outward_parents path
      rw [hparents] at hlast
      cases hlast with
      | last hnone => simp [hnone] at h
  | cons around rest =>
      have houtward := outward_parents path
      rw [hparents] at houtward
      cases houtward with
      | cons last hpath habsolute =>
          exact ⟨around, rfl, (List.append_inj' (hpath.symm.trans h) rfl).1, habsolute⟩

/-! ### Plain ends -/

/-- A path that does not end with a piece that stays where it is. -/
def EndsPlain (path : String) : Prop := (steps path).getLast? ≠ some "."

instance (path : String) : Decidable (EndsPlain path) := inferInstanceAs (Decidable (_ ≠ _))

/-- The last component of such a path is its last step. -/
theorem EndsPlain.steps_eq {path name : String} {names : List String} (h : EndsPlain path)
    (hpath : components path = names ++ [name]) :
    ∃ front, steps path = front ++ [name] ∧ front.filter (· ≠ ".") = names := by
  rcases List.eq_nil_or_concat (steps path) with hnone | ⟨front, last, hsteps⟩
  · have hempty : components path = [] := by
      rw [← filter_steps, hnone]
      rfl
    simp [hempty] at hpath
  · rw [List.concat_eq_append] at hsteps
    have hlast : last ≠ "." := by
      rintro rfl
      exact h (by rw [hsteps, List.getLast?_concat])
    rw [← filter_steps, hsteps, List.filter_append, List.filter_cons_of_pos (by simp [hlast]),
      List.filter_nil] at hpath
    obtain ⟨hfront, hsingle⟩ := List.append_inj' hpath rfl
    obtain rfl := (List.cons.inj hsingle).1
    exact ⟨front, hsteps, hfront⟩

/-- What is left in front of a piece has no idle pieces at its end. -/
theorem mem_parentPieces {reversed pieces : List String} (h : pieces ∈ parentPieces reversed) :
    ∃ rest, rest <:+ reversed ∧ pieces = rest.dropWhile isIdle := by
  induction reversed with
  | nil => exact absurd h (List.not_mem_nil)
  | cons piece rest ih =>
      have hsuffix : rest <:+ piece :: rest := List.suffix_cons piece rest
      unfold parentPieces at h
      split at h
      · obtain ⟨behind, hbehind, heq⟩ := ih h
        exact ⟨behind, hbehind.trans hsuffix, heq⟩
      · rcases List.mem_cons.1 h with h | h
        · exact ⟨rest, hsuffix, h⟩
        · obtain ⟨behind, hbehind, heq⟩ := ih h
          exact ⟨behind, hbehind.trans hsuffix, heq⟩

theorem endsPlain_of_mem_parents {path around : String} (h : around ∈ parents path) :
    EndsPlain around := by
  obtain ⟨pieces, hpieces, rfl⟩ := List.mem_map.1 h
  obtain ⟨rest, hrest, rfl⟩ := mem_parentPieces hpieces
  unfold EndsPlain
  rw [steps_ofReversed fun piece hpiece => isPiece_of_mem_reversedPieces
    (hrest.subset (List.dropWhile_subset _ hpiece)), List.getLast?_reverse]
  intro hlast
  cases hfront : rest.dropWhile isIdle with
  | nil => simp [hfront] at hlast
  | cons piece behind =>
      have hidle : isIdle piece = false := by
        have hhead := List.head_dropWhile_not isIdle (l := rest) (by simp [hfront])
        simpa [hfront] using hhead
      have hempty : piece ≠ "" := by
        rintro rfl
        simp [isIdle] at hidle
      rw [hfront, List.filter_cons_of_pos (by simp [hempty]), List.head?_cons] at hlast
      obtain rfl := Option.some.inj hlast
      simp [isIdle] at hidle

theorem endsPlain_of_parent? {path around : String} (h : parent? path = some around) :
    EndsPlain around :=
  endsPlain_of_mem_parents (List.mem_of_head? h)

/-- A path still ends as it does when another one stands in front of it. -/
theorem EndsPlain.join {path : String} (h : EndsPlain path) (hrelative : isAbsolute path = false)
    (hpath : components path ≠ []) (base : String) : EndsPlain (join base path) := by
  unfold EndsPlain at h ⊢
  rw [steps_join base path hrelative, List.getLast?_append]
  cases hlast : (steps path).getLast? with
  | none =>
      rw [← filter_steps, List.getLast?_eq_none_iff.1 hlast] at hpath
      exact absurd rfl hpath
  | some last =>
      rw [hlast] at h
      exact h

theorem endsPlain_of_isPiece {piece : String} (h : IsPiece piece) (hidle : isIdle piece = false) :
    EndsPlain piece := by
  have hidle' : piece ≠ "" ∧ piece ≠ "." := by simpa [isIdle] using hidle
  unfold EndsPlain
  rw [steps_of_isPiece h, List.filter_cons_of_pos (by simp [hidle'.1])]
  exact fun heq => hidle'.2 (Option.some.inj heq)

/-- A piece at the end of a path is its last step, whatever stands in front of it. -/
theorem endsPlain_join {piece : String} (h : IsPiece piece) (hidle : isIdle piece = false)
    (base : String) : EndsPlain (join base piece) :=
  (endsPlain_of_isPiece h hidle).join (not_isAbsolute_of_isPiece h)
    (by simp [components_of_isPiece h hidle]) base

theorem not_endsWithSlash_of_isPiece {piece : String} (h : IsPiece piece) :
    endsWithSlash piece = false := by
  rw [Bool.eq_false_iff]
  intro hslash
  obtain ⟨front, hfront⟩ := (endsWithSlash_iff piece).1 hslash
  exact h (hfront ▸ List.mem_append_right _ (List.mem_singleton_self _))

/-- What ends a path ends it also when another one stands in front of it. -/
theorem endsWithSlash_join {path : String} (h : path ≠ "") (base : String) :
    endsWithSlash (join base path) = endsWithSlash path := by
  have hjoin : ∃ front, (join base path).toList = front ++ path.toList := by
    unfold join
    split
    · exact ⟨[], rfl⟩
    · split
      · exact ⟨base.toList, String.toList_append⟩
      · exact ⟨(base ++ "/").toList, String.toList_append⟩
  obtain ⟨front, hfront⟩ := hjoin
  rcases List.eq_nil_or_concat path.toList with hnil | ⟨start, last, hlast⟩
  · exact absurd (String.toList_inj.1 hnil) h
  · rw [List.concat_eq_append] at hlast
    simp [endsWithSlash, hfront, hlast]

theorem not_endsWithSlash_join {piece : String} (h : IsPiece piece) (hpiece : piece ≠ "")
    (base : String) : endsWithSlash (join base piece) = false := by
  rw [endsWithSlash_join hpiece, not_endsWithSlash_of_isPiece h]

/-! ### The texts of the directories around a path -/

/-- The text of a path from its pieces. -/
theorem toList_ofReversed_reversedPieces (path : String) :
    (ofReversed (isAbsolute path) (reversedPieces path)).toList = path.toList := by
  have hjoined := Text.toList_joinWith_splitChars '/' path.toList
  unfold ofReversed reversedPieces
  rw [List.reverse_reverse]
  cases habsolute : isAbsolute path with
  | false =>
      rw [if_neg (by simp), if_neg (by simp), String.empty_append]
      exact hjoined
  | true =>
      obtain ⟨rest, hrest⟩ := isAbsolute_iff.1 habsolute
      have hpieces : (pieces path).drop 1 = (Text.splitChars '/' rest).map String.ofList := by
        rw [pieces_of_slash hrest, List.drop_succ_cons, List.drop_zero]
      have hslash : "/" = String.ofList ['/'] := rfl
      rw [if_pos rfl, if_pos rfl, hpieces, String.toList_append, hslash,
        Text.toList_joinWith_splitChars, hrest, String.toList_ofList]
      rfl

/-- The text of a path starts with those of the directories around it. -/
theorem prefix_of_mem_parents {path around : String} (h : around ∈ parents path) :
    around.toList <+: path.toList := by
  obtain ⟨pieces, hpieces, rfl⟩ := List.mem_map.1 h
  obtain ⟨rest, hrest, rfl⟩ := mem_parentPieces hpieces
  have hsuffix := (List.dropWhile_suffix isIdle).trans hrest
  rw [← toList_ofReversed_reversedPieces path]
  unfold ofReversed
  rw [String.toList_append, String.toList_append]
  exact (List.prefix_append_right_inj _).2 (Text.joinWith_prefix (List.reverse_prefix.2 hsuffix))

/-! ### Names -/

/-- A text that can be the name of a file. -/
def IsName (name : String) : Prop := IsPiece name ∧ isIdle name = false

instance (name : String) : Decidable (IsName name) := inferInstanceAs (Decidable (_ ∧ _))

theorem IsName.components_eq {name : String} (h : IsName name) : components name = [name] :=
  components_of_isPiece h.1 h.2

theorem components_join_names {directory name : String} (hdirectory : IsName directory)
    (hname : IsName name) : components (join directory name) = [directory, name] := by
  rw [components_join _ _ (not_isAbsolute_of_isPiece hname.1), hdirectory.components_eq,
    hname.components_eq, List.singleton_append]

/-- A text does not end with what it does not end with. -/
theorem append_ne {rest text : String} (h : ¬ rest.toList <:+ text.toList) (front : String) :
    front ++ rest ≠ text := by
  rintro rfl
  exact h ⟨front.toList, String.toList_append.symm⟩

/-- A name that is made by adding an end to something without a slash. -/
theorem isName_append {front rest : String} (hfront : IsPiece front) (hrest : IsPiece rest)
    (hempty : ¬ rest.toList <:+ "".toList) (hdot : ¬ rest.toList <:+ ".".toList) :
    IsName (front ++ rest) :=
  ⟨isPiece_append hfront hrest, by simp [isIdle, append_ne hempty, append_ne hdot]⟩

/-! ### The characters of a path -/

theorem mem_of_mem_components {c : Char} {path name : String} (h : name ∈ components path)
    (hc : c ∈ name.toList) : c ∈ path.toList := by
  obtain ⟨part, hpart, rfl⟩ := List.mem_map.1 (List.mem_filter.1 h).1
  rw [String.toList_ofList] at hc
  exact (Text.exists_mem_splitChars_iff.1 ⟨part, hpart, hc⟩).1

/-- Every character of a path but its slashes and dots is one of a component. -/
theorem exists_mem_components {c : Char} {path : String} (h : c ∈ path.toList)
    (hslash : c ≠ '/') (hdot : c ≠ '.') : ∃ name ∈ components path, c ∈ name.toList := by
  obtain ⟨part, hpart, hc⟩ := Text.exists_mem_splitChars_iff.2 ⟨h, hslash⟩
  refine ⟨String.ofList part, List.mem_filter.2 ⟨List.mem_map_of_mem hpart, ?_⟩,
    by simpa using hc⟩
  have hempty : String.ofList part ≠ "" := by
    intro heq
    rw [← String.toList_inj, String.toList_ofList] at heq
    rw [heq] at hc
    exact List.not_mem_nil hc
  have hidle : String.ofList part ≠ "." := by
    intro heq
    rw [← String.toList_inj, String.toList_ofList] at heq
    rw [heq] at hc
    exact hdot (List.mem_singleton.1 hc)
  simp [isIdle, hempty, hidle]

/-! ### The text in front of the last name -/

theorem isAbsolute_append_of_ne_empty {front : String} (h : front ≠ "") (rest : String) :
    isAbsolute (front ++ rest) = isAbsolute front := by
  obtain ⟨c, text, hfront⟩ := List.exists_cons_of_ne_nil (mt String.toList_eq_nil_iff.1 h)
  rw [Bool.eq_iff_iff, isAbsolute_iff, isAbsolute_iff, String.toList_append, hfront]
  simp

/-- The last name of a path stands in front of the pieces before it. -/
theorem reversedPieces_append {front name : String} (hfront : front ≠ "") (hname : IsPiece name) :
    reversedPieces (front ++ "/" ++ name) = name :: reversedPieces front := by
  have hpieces : pieces (front ++ "/" ++ name) = pieces front ++ [name] := by
    rw [pieces_append_slash, pieces_of_isPiece hname]
  have hsome : pieces front ≠ [] := by
    simp [pieces, Text.split, Text.splitChars_ne_nil]
  unfold reversedPieces
  rw [hpieces, String.append_assoc, isAbsolute_append_of_ne_empty hfront]
  dsimp only
  split
  · rw [List.drop_append_of_le_length (List.length_pos_iff.2 hsome), List.reverse_append]
    rfl
  · rw [List.reverse_append]
    rfl

/-- The text of the directory around a path is what stands in front of its last name. -/
theorem parent?_append {front directory name : String} (hfront : front ≠ "")
    (hdirectory : IsName directory) (hname : IsName name) :
    parent? (front ++ "/" ++ directory ++ "/" ++ name) = some (front ++ "/" ++ directory) := by
  have hempty : front ++ "/" ++ directory ≠ "" := by
    intro heq
    have htexts := congrArg String.toList heq
    simp [String.toList_append] at htexts
  have hpieces := reversedPieces_append hfront hdirectory.1
  have habsolute : isAbsolute (front ++ "/" ++ directory ++ "/" ++ name) =
      isAbsolute (front ++ "/" ++ directory) := by
    rw [← isAbsolute_append_of_ne_empty hempty ("/" ++ name), ← String.append_assoc]
  unfold parent? parents
  rw [reversedPieces_append hempty hname.1, hpieces, parentPieces, if_neg (by simp [hname.2]),
    List.dropWhile_cons_of_neg (by simp [hdirectory.2]), List.map_cons, List.head?_cons, ← hpieces,
    habsolute, ← String.toList_inj.1 (toList_ofReversed_reversedPieces _).symm]

/-! ### The last name -/

theorem fileName?_eq_some {path : String} {names : List String} {name : String}
    (h : components path = names ++ [name]) (hup : name ≠ "..") : fileName? path = some name := by
  have hfilter : ((reversedPieces path).dropWhile isIdle).filter (fun p => !isIdle p) =
      name :: names.reverse := by
    rw [filter_dropWhile_idle, filter_reversedPieces, h, List.reverse_append]
    rfl
  -- what is left behind the idle pieces at the end starts with the last component
  unfold fileName?
  cases hdropped : (reversedPieces path).dropWhile isIdle with
  | nil => simp [hdropped] at hfilter
  | cons piece rest =>
      have hidle : isIdle piece = false := by
        have hhead := List.head_dropWhile_not isIdle (l := reversedPieces path)
          (by simp [hdropped])
        simpa [hdropped] using hhead
      rw [hdropped, List.filter_cons_of_pos (by simp [hidle])] at hfilter
      obtain rfl : piece = name := (List.cons.inj hfilter).1
      split
      · rename_i heq
        cases heq
      · rename_i heq
        exact absurd (List.cons.inj heq).1 hup
      · rename_i heq
        rw [(List.cons.inj heq).1]

end Path

end ClusterBundle
