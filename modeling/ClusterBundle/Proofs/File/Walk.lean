import ClusterBundle.File.Operation
import ClusterBundle.Proofs.File.Components

/-!
Where paths lead.

A path is located by walking its components. The walk goes through directories only, and without a
`..` it only goes down, so a path that continues the path of a directory ends below that directory.
-/

namespace ClusterBundle.File

open ClusterBundle.Path (components steps filter_steps)

/-- The place that a spot stands for. -/
def Spot.place : Spot → Place
  | .directory place => place
  | .name parent last _ => parent ++ [last]

variable {tree grown : Tree} {here place parent : Place} {names front rest : List String}
  {path name : String} {slash : Bool} {spot : Spot} {fault : IoFault}

theorem walk_append (tree : Tree) (here : Place) (front rest : List String) :
    walk tree here (front ++ rest) =
      match walk tree here front with
      | .ok there => walk tree there rest
      | .error fault => .error fault := by
  induction front generalizing here with
  | nil => rfl
  | cons piece front ih =>
      -- the same test is made first on both sides, so each case is decided in the same way
      simp only [List.cons_append, walk]
      by_cases hidle : piece = "."
      · simp only [if_pos hidle, ih]
      · simp only [if_neg hidle]
        by_cases hup : piece = ".."
        · simp only [if_pos hup, ih]
        · simp only [if_neg hup]
          by_cases hlong : isTooLong piece = true
          · simp only [if_pos hlong]
          · simp only [if_neg hlong]
            cases tree.find? (here ++ [piece]) with
            | none => rfl
            | some entry =>
                cases entry with
                | file content => rfl
                | directory => exact ih _

theorem walk_append_of_ok (h : walk tree here front = .ok place) (rest : List String) :
    walk tree here (front ++ rest) = walk tree place rest := by
  rw [walk_append, h]

theorem walk_ok_of_append (h : walk tree here (front ++ rest) = .ok place) :
    ∃ there, walk tree here front = .ok there ∧ walk tree there rest = .ok place := by
  rw [walk_append] at h
  cases hfront : walk tree here front with
  | ok there => exact ⟨there, rfl, by simpa [hfront] using h⟩
  | error fault => simp [hfront] at h

/-- Pieces that stay where they are do not count. -/
theorem walk_filter (tree : Tree) (here : Place) (names : List String) :
    walk tree here (names.filter (· ≠ ".")) = walk tree here names := by
  induction names generalizing here with
  | nil => rfl
  | cons piece rest ih =>
      by_cases hidle : piece = "."
      · rw [List.filter_cons_of_neg (by simp [hidle]), ih, walk, if_pos hidle]
      · rw [List.filter_cons_of_pos (by simp [hidle])]
        simp only [walk, if_neg hidle, ih]

/-- A name that leads down from where it stands. -/
def LeadsDown (name : String) : Prop := name ≠ "." ∧ name ≠ ".."

instance (name : String) : Decidable (LeadsDown name) := inferInstanceAs (Decidable (_ ∧ _))

theorem walk_cons_ok (hname : LeadsDown name)
    (h : walk tree here (name :: rest) = .ok place) :
    isTooLong name = false ∧ tree.find? (here ++ [name]) = some .directory ∧
      walk tree (here ++ [name]) rest = .ok place := by
  simp only [walk, if_neg hname.1, if_neg hname.2] at h
  by_cases hlong : isTooLong name = true
  · simp [hlong] at h
  · rw [if_neg hlong] at h
    refine ⟨by simpa using hlong, ?_⟩
    cases hfound : tree.find? (here ++ [name]) with
    | none => simp [hfound] at h
    | some entry =>
        cases entry with
        | file content => simp [hfound] at h
        | directory => exact ⟨rfl, by simpa [hfound] using h⟩

/-- One step more, into a directory. -/
theorem walk_child (h : walk tree here names = .ok place) (hname : LeadsDown name)
    (hshort : isTooLong name = false) (hfound : tree.find? (place ++ [name]) = some .directory) :
    walk tree here (names ++ [name]) = .ok (place ++ [name]) := by
  rw [walk_append_of_ok h]
  simp only [walk, if_neg hname.1, if_neg hname.2, hshort, hfound, Bool.false_eq_true, if_false]

theorem walk_down (hnames : ∀ name ∈ names, LeadsDown name)
    (h : walk tree here names = .ok place) : place = here ++ names := by
  induction names generalizing here with
  | nil =>
      cases h
      exact (List.append_nil _).symm
  | cons name rest ih =>
      obtain ⟨hname, hrest⟩ := List.forall_mem_cons.1 hnames
      obtain ⟨-, -, hwalk⟩ := walk_cons_ok hname h
      rw [ih hrest hwalk, List.append_assoc, List.singleton_append]

/-! ### Directories all the way -/

/-- A place that is a directory, in a directory, and so on up to the root. -/
def Tree.Open (tree : Tree) (place : Place) : Prop :=
  ∀ front, front <+: place → tree.find? front = some .directory

namespace Tree.Open

theorem root : tree.Open [] := by
  intro front hfront
  rw [List.prefix_nil.1 hfront]
  rfl

theorem directory (h : tree.Open place) : tree.find? place = some .directory :=
  h place (List.prefix_refl place)

theorem dropLast (h : tree.Open place) : tree.Open place.dropLast :=
  fun front hfront => h front (hfront.trans (List.dropLast_prefix place))

theorem child (h : tree.Open place) (hname : tree.find? (place ++ [name]) = some .directory) :
    tree.Open (place ++ [name]) := by
  intro front hfront
  rcases List.prefix_concat_iff.1 hfront with rfl | hfront
  · exact hname
  · exact h front hfront

theorem walk (h : tree.Open here) (hwalk : File.walk tree here names = .ok place) :
    tree.Open place := by
  induction names generalizing here with
  | nil =>
      cases hwalk
      exact h
  | cons piece rest ih =>
      by_cases hidle : piece = "."
      · rw [File.walk, if_pos hidle] at hwalk
        exact ih h hwalk
      · by_cases hup : piece = ".."
        · rw [File.walk, if_neg hidle, if_pos hup] at hwalk
          exact ih h.dropLast hwalk
        · obtain ⟨-, hpiece, hrest⟩ := walk_cons_ok ⟨hidle, hup⟩ hwalk
          exact ih (h.child hpiece) hrest

end Tree.Open

/-- Walking goes the same way as long as directories stay. -/
theorem walk_kept
    (hkept : ∀ place, tree.find? place = some .directory → grown.find? place = some .directory)
    (h : walk tree here names = .ok place) : walk grown here names = .ok place := by
  induction names generalizing here with
  | nil => exact h
  | cons piece rest ih =>
      by_cases hidle : piece = "."
      · rw [walk, if_pos hidle] at h ⊢
        exact ih h
      · by_cases hup : piece = ".."
        · rw [walk, if_neg hidle, if_pos hup] at h ⊢
          exact ih h
        · obtain ⟨hlong, hpiece, hrest⟩ := walk_cons_ok ⟨hidle, hup⟩ h
          simp only [walk, if_neg hidle, if_neg hup, hlong, hkept _ hpiece, Bool.false_eq_true,
            if_false]
          exact ih hrest

/-! ### Locating -/

theorem walk_steps (tree : Tree) (here : Place) (path : String) :
    walk tree here (steps path) = walk tree here (components path) := by
  rw [← filter_steps, walk_filter]

/-- Why a path cannot be used in any tree: for the sake of its text. -/
def textFault? (path : String) : Option IoFault :=
  if path.toList.contains '\x00' then some .nulInPath
  else if path = "" then some .notFound
  else if pathLimit ≤ (Utf8.encode path).length then some .nameTooLong
  else none

/-- Where the steps of a path end. -/
def spotOf (tree : Tree) (path : String) : Except IoFault Spot :=
  match (steps path).getLast? with
  | none => .ok (.directory [])
  | some last =>
      match walk tree [] (steps path).dropLast with
      | .error fault => .error fault
      | .ok parent =>
          if last = "." then .ok (.directory parent)
          else if last = ".." then .ok (.directory parent.dropLast)
          else .ok (.name parent last (Path.endsWithSlash path))

theorem locate_eq (tree : Tree) (path : String) :
    locate tree path =
      match textFault? path with
      | some fault => .error fault
      | none => spotOf tree path := by
  unfold locate textFault?
  split
  · rfl
  split
  · rfl
  split
  · rfl
  · rfl

theorem locate_of_fault (h : textFault? path = some fault) (tree : Tree) :
    locate tree path = .error fault := by rw [locate_eq, h]

theorem locate_of_no_fault (h : textFault? path = none) (tree : Tree) :
    locate tree path = spotOf tree path := by rw [locate_eq, h]

/-- The text of a path that is located can be used. -/
theorem textFault?_of_locate (h : locate tree path = .ok spot) : textFault? path = none := by
  cases hfault : textFault? path with
  | none => rfl
  | some fault =>
      rw [locate_of_fault hfault] at h
      cases h

theorem textFault?_ne_notFound (hpath : path ≠ "") : textFault? path ≠ some .notFound := by
  unfold textFault?
  rw [if_neg hpath]
  split
  · simp [IoFault.notFound]
  split
  · simp [IoFault.notFound, IoFault.nameTooLong]
  · simp

/-- What has to hold for a path to be located: it ends in a directory, or with a name in one. -/
theorem locate_ok (h : locate tree path = .ok spot) :
    (∃ place, spot = .directory place ∧ walk tree [] (components path) = .ok place) ∨
      ∃ parent name slash front, spot = .name parent name slash ∧ LeadsDown name ∧
        components path = front ++ [name] ∧ walk tree [] front = .ok parent := by
  rw [locate_of_no_fault (textFault?_of_locate h), spotOf] at h
  split at h
  · rename_i hnone
    have hcomponents : components path = [] := by
      rw [← filter_steps, List.getLast?_eq_none_iff.1 hnone]
      rfl
    cases h
    exact .inl ⟨[], rfl, by rw [hcomponents, walk]⟩
  · rename_i last hlast
    obtain ⟨front, hsteps⟩ := List.getLast?_eq_some_iff.1 hlast
    split at h
    · cases h
    · rename_i parent hwalk
      rw [hsteps, List.dropLast_concat] at hwalk
      split at h
      · rename_i hidle
        cases h
        refine .inl ⟨parent, rfl, ?_⟩
        rw [← walk_steps, hsteps, walk_append_of_ok hwalk, walk, if_pos hidle, walk]
      · rename_i hidle
        split at h
        · rename_i hup
          cases h
          refine .inl ⟨parent.dropLast, rfl, ?_⟩
          rw [← walk_steps, hsteps, walk_append_of_ok hwalk, walk, if_neg hidle, if_pos hup, walk]
        · rename_i hup
          cases h
          refine .inr ⟨parent, last, _, front.filter (· ≠ "."), rfl, ⟨hidle, hup⟩, ?_, ?_⟩
          · rw [← filter_steps, hsteps, List.filter_append,
              List.filter_cons_of_pos (by simp [hidle]), List.filter_nil]
          · rw [walk_filter, hwalk]

/-- A path is found only if the way to its last components can be walked. -/
theorem walk_of_locate (hpath : components path = front ++ names) (hnames : names ≠ [])
    (h : locate tree path = .ok spot) : ∃ there, walk tree [] front = .ok there := by
  rcases locate_ok h with ⟨place, -, hwalk⟩ | ⟨parent, name, slash, way, -, -, hlast, hwalk⟩
  · rw [hpath] at hwalk
    obtain ⟨there, hthere, -⟩ := walk_ok_of_append hwalk
    exact ⟨there, hthere⟩
  · -- the last name is one of the last components, so the way to them is walked before it
    obtain ⟨around, last, rfl⟩ := (List.eq_nil_or_concat names).resolve_left hnames
    rw [hpath, List.concat_eq_append, ← List.append_assoc] at hlast
    rw [← (List.append_inj' hlast rfl).1] at hwalk
    obtain ⟨there, hthere, -⟩ := walk_ok_of_append hwalk
    exact ⟨there, hthere⟩

/-- A path that is not empty and whose components lead to a directory is found. -/
theorem locate_ne_notFound (hpath : path ≠ "") (h : walk tree [] (components path) = .ok place) :
    locate tree path ≠ .error .notFound := by
  rw [← walk_steps] at h
  cases hfault : textFault? path with
  | some fault =>
      rw [locate_of_fault hfault]
      rintro heq
      cases heq
      exact textFault?_ne_notFound hpath hfault
  | none =>
  rw [locate_of_no_fault hfault, spotOf]
  split
  · simp
  · rename_i last hlast
    obtain ⟨front, hsteps⟩ := List.getLast?_eq_some_iff.1 hlast
    rw [hsteps] at h
    obtain ⟨parent, hparent, -⟩ := walk_ok_of_append h
    rw [hsteps, List.dropLast_concat, hparent]
    dsimp only
    split
    · simp
    · split <;> simp

end ClusterBundle.File
