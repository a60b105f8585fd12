import ClusterBundle.CommandLine.Program
import ClusterBundle.Proofs.File.Nested

/-!
How the program ends.

The exit status is settled before the first request is made. It hangs on the arguments, on whether
the root of the bundle can be made a directory, on whether the log in it can be opened, and on what
the libraries that look at the environment make of it; from there on nothing that a cluster answers
and nothing that becomes of the bundle can change it.

The libraries are taken as they may be. All that the program leaves to them is an end before its
arguments are read, and one between the opening of the log and the first request. The second is
open to every user: the name of one variable brings it about.
-/

namespace ClusterBundle

open File (createAll isDirectory textFault?)

theorem Path.isAbsolute_append {front : String} (behind : String) (h : isAbsolute front = true) :
    isAbsolute (front ++ behind) = true := by
  obtain ⟨rest, hrest⟩ := isAbsolute_iff.1 h
  exact isAbsolute_iff.2 ⟨rest ++ behind.toList, by rw [String.toList_append, hrest]; rfl⟩

/-- An absolute working directory makes every path absolute that is not empty. -/
theorem Path.isAbsolute_of_absolute? {workingDirectory path absolute : String}
    (hworking : isAbsolute workingDirectory = true)
    (h : absolute? workingDirectory path = some absolute) : isAbsolute absolute = true := by
  unfold absolute? at h
  split at h
  · cases h
  · dsimp only at h
    split at h
    · -- an absolute path keeps one or two slashes in front
      have hfront : ∀ two : Prop, [Decidable two] →
          isAbsolute (if two then "//" else "/") = true := by
        intro two _
        split <;> decide
      split at h
      · cases h
        exact hfront _
      · cases h
        exact isAbsolute_append _ (isAbsolute_append _ (hfront _))
    · split at h
      · cases h
        split
        · exact hworking
        · exact isAbsolute_append _ hworking
      · cases h
        exact isAbsolute_append _ (isAbsolute_join hworking _)

/-- A path that is not empty can be made a directory just if it is one then. -/
theorem File.createAll_eq_ok_iff {tree : Tree} {path : String} (hempty : path ≠ "") :
    (createAll tree path).1 = .ok () ↔ isDirectory (createAll tree path).2 path = true := by
  rcases hall : createAll tree path with ⟨result, grown⟩
  constructor
  · intro hok
    dsimp only at hok
    subst hok
    obtain ⟨htext, place, hwalk⟩ := walk_of_createAll hall
    exact isDirectory_of_walked (htext.resolve_left hempty) hwalk
  · intro hdirectory
    dsimp only at hdirectory ⊢
    -- making it again changes nothing in how that comes out
    obtain ⟨place, hwalk⟩ := walk_of_isDirectory hdirectory
    have htext : textFault? path = none := by
      cases htext : textFault? path with
      | none => rfl
      | some fault =>
          rw [isDirectory_of_fault htext] at hdirectory
          cases hdirectory
    have hagain := (createAll_twice hall).2
    rw [createAll_of_ne hempty, createNested_of_walked htext hwalk] at hagain
    cases result with
    | ok _ => rfl
    | error fault => cases hagain

namespace CommandLine

/-- The target that options ask for, with its destination taken from the working directory. -/
def Surroundings.target? (s : Surroundings) (options : Options) : Option Target :=
  Target.make? s.workingDirectory options.operator options.ns options.destination

/-- A collection for a target can be begun in a tree: the root of the bundle can be made a
directory, and the log in it can be opened to be added to. Then the tree is as it is begun in. -/
structure CanBegin (tree : File.Tree) (target : Target) (opened : File.Tree) : Prop where
  root : (createAll tree target.destination).1 = .ok ()
  log : File.append (createAll tree target.destination).2 (logPath target) [] = .ok opened

variable {s t : Surroundings} {options : Options} {target : Target} {settings : Settings}
  {void : Bool} {stop : Stop} {opened : File.Tree}

/-- The collection of a target in a tree that it is begun in. -/
def work (s : Surroundings) (options : Options) (target : Target) (settings : Settings)
    (opened : File.Tree) : Work :=
  let tool := tool s options target settings
  { tool, target, progress := (Run.run tool.cluster target settings opened).2 }

/-! ### A collection -/

theorem collect_of_canBegin (htarget : s.target? options = some target)
    (h : CanBegin s.tree target opened) : collect s options = gather s options target opened := by
  obtain ⟨hroot, hopened⟩ := h
  rcases hall : createAll s.tree target.destination with ⟨result, grown⟩
  rw [hall] at hroot hopened
  dsimp only at hroot hopened
  subst hroot
  unfold Surroundings.target? at htarget
  simp only [collect, htarget, Target.prepare, hall, hopened]

/-- A collection that was begun ends well, whatever it comes to. -/
theorem collect_of_settings (htarget : s.target? options = some target)
    (h : CanBegin s.tree target opened) (hsettings : s.settings = .ok (settings, void)) :
    (collect s options).exit = 0 ∧
      (collect s options).work = some (work s options target settings opened) := by
  rw [collect_of_canBegin htarget h]
  simp only [gather, work, hsettings]
  exact ⟨trivial, trivial⟩

/-- Settings that end the program do so before the collection is begun. -/
theorem collect_of_stop (htarget : s.target? options = some target)
    (h : CanBegin s.tree target opened) (hsettings : s.settings = .error stop) :
    collect s options = .stopped stop opened := by
  rw [collect_of_canBegin htarget h]
  simp only [gather, hsettings]

/-- Without a root or a log nothing is collected. -/
theorem collect_of_not_canBegin
    (h : ∀ target opened, s.target? options = some target → ¬ CanBegin s.tree target opened) :
    (collect s options).exit = 1 ∧ (collect s options).work = none := by
  unfold collect
  dsimp only
  cases htarget : Target.make? s.workingDirectory options.operator options.ns
      options.destination with
  | none => exact ⟨rfl, rfl⟩
  | some target =>
      rcases hall : createAll s.tree target.destination with ⟨fault | _, grown⟩
      · simp only [Target.prepare, hall]
        exact ⟨trivial, trivial⟩
      · simp only [Target.prepare, hall]
        cases hlog : File.append grown (logPath target) [] with
        | error fault => exact ⟨rfl, rfl⟩
        | ok opened =>
            refine absurd ?_ (h target opened htarget)
            exact { root := by rw [hall], log := by rw [hall]; exact hlog }

/-- The ways in which a collection that is asked for can go. -/
inductive Course (s : Surroundings) (options : Options) : Prop where
  | begun (target : Target) (opened : File.Tree) (settings : Settings) (void : Bool)
      (htarget : s.target? options = some target) (h : CanBegin s.tree target opened)
      (hsettings : s.settings = .ok (settings, void))
  | stopped (target : Target) (opened : File.Tree) (stop : Stop)
      (htarget : s.target? options = some target) (h : CanBegin s.tree target opened)
      (hsettings : s.settings = .error stop)
  | unbegun
      (h : ∀ target opened, s.target? options = some target → ¬ CanBegin s.tree target opened)

theorem course (s : Surroundings) (options : Options) : Course s options := by
  by_cases hbegin : ∃ target opened, s.target? options = some target ∧
      CanBegin s.tree target opened
  · obtain ⟨target, opened, htarget, h⟩ := hbegin
    cases hsettings : s.settings with
    | error stop => exact .stopped target opened stop htarget h hsettings
    | ok read => exact .begun target opened read.1 read.2 htarget h hsettings
  · exact .unbegun fun target opened htarget h => hbegin ⟨target, opened, htarget, h⟩

/-- A collection ends well just if it can be begun and its settings can be read. -/
theorem collect_exit_eq_zero_iff :
    (collect s options).exit = 0 ↔
      (∃ target opened, s.target? options = some target ∧ CanBegin s.tree target opened) ∧
        ∀ stop, s.settings ≠ .error stop := by
  cases course s options with
  | begun target opened settings void htarget h hsettings =>
      refine iff_of_true (collect_of_settings htarget h hsettings).1
        ⟨⟨target, opened, htarget, h⟩, fun stop hstop => ?_⟩
      cases hsettings.symm.trans hstop
  | stopped target opened stop htarget h hsettings =>
      rw [collect_of_stop htarget h hsettings]
      exact iff_of_false stop.exit_ne_zero fun hall => hall.2 stop hsettings
  | unbegun hnot =>
      rw [(collect_of_not_canBegin hnot).1]
      refine iff_of_false (by decide) ?_
      rintro ⟨⟨target, opened, htarget, h⟩, -⟩
      exact hnot target opened htarget h

theorem collect_work (hexit : (collect s options).exit ≠ 0) : (collect s options).work = none := by
  cases course s options with
  | begun target opened settings void htarget h hsettings =>
      exact absurd (collect_of_settings htarget h hsettings).1 hexit
  | stopped target opened stop htarget h hsettings =>
      rw [collect_of_stop htarget h hsettings]
      rfl
  | unbegun hnot => exact (collect_of_not_canBegin hnot).2

/-- What the program finds before a collection settles how the collection ends. -/
theorem collect_exit_eq (hsettings : t.settings = s.settings)
    (htarget : t.target? options = s.target? options) (htree : t.tree = s.tree) :
    (collect t options).exit = (collect s options).exit := by
  -- the way that the one goes is open to the other as well
  cases course s options with
  | begun target opened settings void hmade h hread =>
      rw [(collect_of_settings hmade h hread).1]
      rw [← htree] at h
      exact (collect_of_settings (htarget.trans hmade) h (hsettings.trans hread)).1
  | stopped target opened stop hmade h hread =>
      rw [collect_of_stop hmade h hread]
      rw [← htree] at h
      rw [collect_of_stop (htarget.trans hmade) h (hsettings.trans hread)]
  | unbegun hnot =>
      rw [(collect_of_not_canBegin hnot).1]
      rw [← htarget, ← htree] at hnot
      exact (collect_of_not_canBegin hnot).1

/-! ### The program -/

/-- The program is started. -/
def Surroundings.Starts (s : Surroundings) : Prop := s.libraries.start s.environment = none

/-- How the program ends, and what has been done by then. -/
structure Ends (s : Surroundings) : Prop where
  /-- A program that is not started does nothing. -/
  unstarted : ∀ stop, s.libraries.start s.environment = some stop →
    (run s).exit = stop.exit ∧ (run s).work = none ∧ (run s).tree = s.tree
  /-- Wrong arguments end it before anything is done. -/
  wrong : s.Starts → ∀ fault, parse s.arguments = .error fault →
    (run s).exit = 1 ∧ (run s).work = none ∧ (run s).tree = s.tree
  /-- So does a text that is asked for, but well. -/
  shown : s.Starts → parse s.arguments = .ok .help ∨ parse s.arguments = .ok .version →
    (run s).exit = 0 ∧ (run s).work = none ∧ (run s).tree = s.tree
  zero_iff : s.Starts → ∀ options, parse s.arguments = .ok (.collect options) →
    ((run s).exit = 0 ↔
      (∃ target opened, s.target? options = some target ∧ CanBegin s.tree target opened) ∧
        ∀ stop, s.settings ≠ .error stop)
  /-- Then everything is done that belongs to a run. -/
  begun : s.Starts → ∀ options target opened settings void,
    parse s.arguments = .ok (.collect options) → s.target? options = some target →
    CanBegin s.tree target opened → s.settings = .ok (settings, void) →
    (run s).work = some (work s options target settings opened)
  /-- Without a root or a log it ends before the first request. -/
  one : s.Starts → ∀ options, parse s.arguments = .ok (.collect options) →
    (∀ target opened, s.target? options = some target → ¬ CanBegin s.tree target opened) →
    (run s).exit = 1 ∧ (run s).work = none
  /-- So it does where reading the settings ends it, with the log in place. -/
  stopped : s.Starts → ∀ options target opened stop,
    parse s.arguments = .ok (.collect options) → s.target? options = some target →
    CanBegin s.tree target opened → s.settings = .error stop →
    (run s).exit = stop.exit ∧ (run s).work = none ∧ (run s).tree = opened
  /-- The reader of the settings ends it there just if the name of a variable asks for an index that
  no list can have. -/
  overfull : s.libraries.readSettings = Settings.read → ∀ stop,
    (s.settings = .error stop ↔ stop = .panicked "capacity overflow" ∧
      ∃ entry value key, (entry, value) ∈ s.environment ∧ Settings.key? entry = some key ∧
        key.fits = false)
  /-- Every end but a good one comes before the first request. -/
  silent : (run s).exit ≠ 0 → (run s).work = none
  /-- A collection that was begun ends well, whether its report can be saved or not. -/
  unsaved : ∀ work, (run s).work = some work → ∀ (report : Report) (fault : Bundle.Fault),
    (report.save work.progress.tree).1 = .error fault → (run s).exit = 0
  /-- What a destination is resolved to is absolute, and can be made a directory just if it is one
  in the end. -/
  resolved : ∀ options target, Path.isAbsolute s.workingDirectory = true →
    s.target? options = some target →
    Path.isAbsolute target.destination = true ∧
      ((createAll s.tree target.destination).1 = .ok () ↔
        isDirectory (createAll s.tree target.destination).2 target.destination = true)
  /-- Tools and networks have no say in it. -/
  same : ∀ t : Surroundings, t.libraries = s.libraries → t.arguments = s.arguments →
    t.environment = s.environment → t.workingDirectory = s.workingDirectory → t.tree = s.tree →
    (run t).exit = (run s).exit

theorem run_of_start (h : s.libraries.start s.environment = some stop) :
    run s = .stopped stop s.tree := by
  simp only [run, h]

theorem run_of_starts (h : s.Starts) : run s = perform s := by
  unfold Surroundings.Starts at h
  simp only [run, h]

theorem run_of_collect (hstarts : s.Starts) (h : parse s.arguments = .ok (.collect options)) :
    run s = collect s options := by
  simp only [run_of_starts hstarts, perform, h]

/-- Nothing has been asked of the cluster where the program does not end well. -/
theorem run_work (hexit : (run s).exit ≠ 0) : (run s).work = none := by
  cases hstart : s.libraries.start s.environment with
  | some stop => rw [run_of_start hstart]; rfl
  | none =>
      cases hparse : parse s.arguments with
      | error fault => simp only [run_of_starts hstart, perform, hparse]
      | ok request =>
          cases request with
          | help | version => simp only [run_of_starts hstart, perform, hparse]
          | collect options =>
              rw [run_of_collect hstart hparse] at hexit ⊢
              exact collect_work hexit

/-- How the program ends is settled by its libraries, its arguments, its environment, its working
directory and the files that it finds. -/
theorem exit_eq (hlibraries : t.libraries = s.libraries) (harguments : t.arguments = s.arguments)
    (henvironment : t.environment = s.environment)
    (hworking : t.workingDirectory = s.workingDirectory) (htree : t.tree = s.tree) :
    (run t).exit = (run s).exit := by
  have hstart : t.libraries.start t.environment = s.libraries.start s.environment := by
    rw [hlibraries, henvironment]
  cases hs : s.libraries.start s.environment with
  | some stop => rw [run_of_start hs, run_of_start (hstart.trans hs)]; rfl
  | none =>
      have ht : t.Starts := hstart.trans hs
      cases hparse : parse s.arguments with
      | error fault => simp only [run_of_starts hs, run_of_starts ht, perform, harguments, hparse]
      | ok request =>
          cases request with
          | help | version =>
              simp only [run_of_starts hs, run_of_starts ht, perform, harguments, hparse]
          | collect options =>
              rw [run_of_collect hs hparse, run_of_collect ht (harguments ▸ hparse)]
              refine collect_exit_eq ?_ ?_ htree
              · simp only [Surroundings.settings, hlibraries, henvironment]
              · simp only [Surroundings.target?, hworking]

/-- Whatever the tool, the network and the libraries are like, the program ends as its arguments,
the files that it finds and what the libraries make of its environment say, and fails only before
the first request. -/
theorem run_ends (s : Surroundings) : Ends s where
  unstarted stop h := by
    rw [run_of_start h]
    exact ⟨rfl, rfl, rfl⟩
  wrong hstarts fault h := by
    simp only [run_of_starts hstarts, perform, h]
    exact ⟨trivial, trivial, trivial⟩
  shown hstarts h := by
    rcases h with h | h <;> simp only [run_of_starts hstarts, perform, h] <;>
      exact ⟨trivial, trivial, trivial⟩
  zero_iff hstarts options h := by
    rw [run_of_collect hstarts h]
    exact collect_exit_eq_zero_iff
  begun hstarts options target opened settings void h htarget hcan hsettings := by
    rw [run_of_collect hstarts h]
    exact (collect_of_settings htarget hcan hsettings).2
  one hstarts options h hnot := by
    rw [run_of_collect hstarts h]
    exact collect_of_not_canBegin hnot
  stopped hstarts options target opened stop h htarget hcan hsettings := by
    rw [run_of_collect hstarts h, collect_of_stop htarget hcan hsettings]
    exact ⟨rfl, rfl, rfl⟩
  overfull hreads stop := by
    rw [Surroundings.settings, hreads, Settings.load_eq_error_iff, Settings.read_eq_error_iff]
  silent := run_work
  unsaved work hwork _ _ _ := by
    refine Decidable.byContradiction fun hexit => ?_
    cases (run_work hexit).symm.trans hwork
  resolved options target hworking htarget := by
    unfold Surroundings.target? Target.make? at htarget
    obtain ⟨absolute, habsolute, rfl⟩ := Option.map_eq_some_iff.1 htarget
    have hroot := Path.isAbsolute_of_absolute? hworking habsolute
    refine ⟨hroot, File.createAll_eq_ok_iff ?_⟩
    rintro rfl
    cases hroot
  same _ hlibraries harguments henvironment hworking htree :=
    exit_eq hlibraries harguments henvironment hworking htree

/-- A program whose environment has a variable of no use, in an empty tree. -/
def crowded : Surroundings where
  arguments := ["--dest-dir", "/b"]
  environment := [("MUST_GATHER_X[9223372036854775807]", "x")]
  workingDirectory := "/"
  tree := File.Tree.empty
  launch := fun _ _ _ => .notStarted .notFound
  network := { exchange := fun _ => .error "no network" }
  cacheDirectory := "/cache"
  colours := false
  started := { seconds := 0, nanos := 0 }
  finished := { seconds := 0, nanos := 0 }

/-- It ends in the middle of its work, though it is started and its collection can be begun. -/
theorem run_stops_at_index :
    crowded.Starts ∧
      (∃ options target opened, parse crowded.arguments = .ok (.collect options) ∧
        crowded.target? options = some target ∧ CanBegin crowded.tree target opened) ∧
      (run crowded).exit = 101 ∧ (run crowded).work.isNone := by
  refine ⟨rfl, ⟨_, _, _, rfl, rfl, ⟨rfl, rfl⟩⟩, ?_, ?_⟩ <;> decide +kernel

end CommandLine

end ClusterBundle
