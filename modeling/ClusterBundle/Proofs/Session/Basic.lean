import ClusterBundle.Proofs.Script.Footprint

/-!
Sessions: the entry points of a collection, used in any order.

A stage uses the entry points in an order of its own, but what they do to the tally, the log and the
bundle is not the doing of the stage. So a session is any list of uses. Each of them may meet a
cluster of its own and a tree of files that others have changed meanwhile, which makes any answer
and any outcome of a write possible at any time.

`Ending` is how a use comes out with what is told about it, and `Entry.effect` finds it without the
tally and the log. `Entry.on_act` says once what a use leaves behind, and everything about sessions
comes from there by induction.
-/

namespace ClusterBundle

open Cluster (Call Failure Query Container LogSource)
open Collect (Mode)

/-- One use of an entry point. -/
inductive Entry where
  | get (query : Query) (output : String)
  | appendGet (query : Query) (output : String)
  | exec (container : Container) (command : List String) (output : String)
  | logs (source : LogSource) (output : String)
  | fetch (url token : String) (certificates : Bytes) (output : String)
  | write (step : Step) (output : String) (content : Bytes)
  | noteSkipped (step : Step) (reason : String)
  | noteFailed (step : Step) (reason : String)
  deriving DecidableEq

/-- How a step comes out, with what is told about it. -/
inductive Ending where
  /-- The full path that was written to. -/
  | written (path : String)
  | skipped (reason : String)
  | failed (reason : String)
  deriving Repr, DecidableEq

namespace Ending

def outcome : Ending → Outcome
  | .written _ => .written
  | .skipped _ => .skipped
  | .failed _ => .failed

/-- The event that tells an observer. -/
def event (step : Step) : Ending → Event
  | .written path => Tally.writtenEvent step path
  | .skipped reason => Tally.skippedEvent step reason
  | .failed reason => Tally.failedEvent step reason

/-- The record that a tally keeps of a step that did not write anything. -/
def record? (step : Step) (output : Option String) : Ending → Option StepRecord
  | .written _ => none
  | .skipped reason => some { step, outcome := .skipped, reason, output }
  | .failed reason => some { step, outcome := .failed, reason, output }

/-- What a tally becomes. -/
def count (step : Step) (output : Option String) (tally : Tally) : Ending → Tally
  | .written _ => tally.addWritten
  | .skipped reason => tally.addSkipped step reason output
  | .failed reason => tally.addFailed step reason output

/-- How putting an answer into a bundle ends, and the tree after it: an answer that says that
nothing is there is skipped, any other fault of the cluster or of the bundle is a failure. -/
def settle (mode : Mode) (output : String) (bundle : Bundle) (tree : File.Tree) :
    Except Failure Bytes → Ending × File.Tree
  | .error failure =>
      (if failure.isNotFound then .skipped failure.message else .failed failure.message, tree)
  | .ok content =>
      match mode.put output content bundle tree with
      | (.ok path, after) => (.written path, after)
      | (.error fault, after) => (.failed fault.message, after)

variable {mode : Mode} {output : String} {bundle : Bundle} {tree : File.Tree}

theorem settle_ok_snd (content : Bytes) :
    (settle mode output bundle tree (.ok content)).2 =
      (mode.put output content bundle tree).2 := by
  rcases hput : mode.put output content bundle tree with ⟨_ | path, after⟩ <;>
    simp only [settle, hput]

/-- Nothing is skipped but for the reason that it is not there. -/
theorem settle_outcome_skipped_iff (answer : Except Failure Bytes) :
    (settle mode output bundle tree answer).1.outcome = .skipped ↔
      ∃ failure, answer = .error failure ∧ failure.isNotFound = true := by
  cases answer with
  | error failure => cases h : failure.isNotFound <;> simp [settle, outcome, h]
  | ok content =>
      rcases hput : mode.put output content bundle tree with ⟨_ | path, after⟩ <;>
        simp [settle, outcome, hput]

/-- Something is written just if there was an answer and the bundle took it. -/
theorem settle_outcome_written_iff (answer : Except Failure Bytes) :
    (settle mode output bundle tree answer).1.outcome = .written ↔
      ∃ content, answer = .ok content ∧
        (mode.put output content bundle tree).1.toBool = true := by
  cases answer with
  | error failure => cases h : failure.isNotFound <;> simp [settle, outcome, h]
  | ok content =>
      rcases hput : mode.put output content bundle tree with ⟨_ | path, after⟩ <;>
        simp [settle, outcome, hput, Except.toBool]

end Ending

/-- The one place where an answer becomes an outcome, without its cases. -/
theorem Collect.on_finish (site : Site) (p : Progress) (mode : Mode) (step : Step)
    (output : String) (answer : Except Failure Bytes) :
    (finish mode step output answer).on site p =
      let (ending, tree) := Ending.settle mode output site.bundle p.tree answer
      (ending.outcome,
        { p with
          tree
          tally := ending.count step (some output) p.tally
          log := p.log ++ [ending.event step] }) := by
  cases answer with
  | error failure =>
      cases habsent : failure.isNotFound with
      | true =>
          rw [on_finish_absent _ _ _ habsent]
          simp [Ending.settle, habsent, Ending.outcome, Ending.count, Ending.event]
      | false =>
          rw [on_finish_failed _ _ _ habsent]
          simp [Ending.settle, habsent, Ending.outcome, Ending.count, Ending.event]
  | ok content =>
      rcases hput : mode.put output content site.bundle p.tree with ⟨fault | path, tree⟩
      · rw [on_finish_refused step hput]
        simp [Ending.settle, hput, Ending.outcome, Ending.count, Ending.event]
      · rw [on_finish_written step hput]
        simp [Ending.settle, hput, Ending.outcome, Ending.count, Ending.event]

namespace Entry

/-- The computation that an entry stands for. A note has the outcome that it notes. -/
def act : Entry → Collect Outcome
  | .get query output => Collect.get query output
  | .appendGet query output => Collect.appendGet query output
  | .exec container command output => Collect.exec container command output
  | .logs source output => Collect.logs source output
  | .fetch url token certificates output => Collect.fetch url token certificates output
  | .write step output content => Collect.write step output content
  | .noteSkipped step reason => do
      Collect.noteSkipped step reason
      return .skipped
  | .noteFailed step reason => do
      Collect.noteFailed step reason
      return .failed

/-- The step that is tallied. -/
def step : Entry → Step
  | .get query _ | .appendGet query _ => .ofQuery query
  | .exec container command _ => .ofCommand container command
  | .logs source _ => .ofLog source
  | .fetch url .. => .ofFetch url
  | .write step .. | .noteSkipped step _ | .noteFailed step _ => step

/-- The place in the bundle that an entry collects for; a note collects nothing. -/
def output? : Entry → Option String
  | .get _ output | .appendGet _ output | .exec _ _ output | .logs _ output
  | .fetch _ _ _ output | .write _ output _ => some output
  | .noteSkipped .. | .noteFailed .. => none

def mode : Entry → Mode
  | .appendGet .. => .append
  | _ => .replace

/-- The request that an entry makes. -/
def call? : Entry → Option Call
  | .get query _ | .appendGet query _ => some (.get query)
  | .exec container command _ => some (.exec container command)
  | .logs source _ => some (.logs source)
  | .fetch url token certificates _ => some (.fetch url token certificates)
  | .write .. | .noteSkipped .. | .noteFailed .. => none

/-- What an entry has to put into the bundle, unless that is what its request failed to get. A note
has nothing. -/
def given? (cluster : Cluster) : Entry → Option (Except Failure Bytes)
  | .write _ _ content => some (.ok content)
  | entry => entry.call?.map cluster.answer

/-- How an entry ends, and the tree after it. -/
def effect (site : Site) (tree : File.Tree) : Entry → Ending × File.Tree
  | .get query output =>
      Ending.settle .replace output site.bundle tree (site.cluster.answer (.get query))
  | .appendGet query output =>
      Ending.settle .append output site.bundle tree (site.cluster.answer (.get query))
  | .exec container command output =>
      Ending.settle .replace output site.bundle tree (site.cluster.answer (.exec container command))
  | .logs source output =>
      Ending.settle .replace output site.bundle tree (site.cluster.answer (.logs source))
  | .fetch url token certificates output =>
      Ending.settle .replace output site.bundle tree
        (site.cluster.answer (.fetch url token certificates))
  | .write _ output content => Ending.settle .replace output site.bundle tree (.ok content)
  | .noteSkipped _ reason => (.skipped reason, tree)
  | .noteFailed _ reason => (.failed reason, tree)

variable {site : Site} {p : Progress} {tree : File.Tree}

/-- A collecting entry settles what it is given for its output. -/
theorem effect_of_given {entry : Entry} {output : String} {answer : Except Failure Bytes}
    (houtput : entry.output? = some output) (hgiven : entry.given? site.cluster = some answer) :
    entry.effect site tree = Ending.settle entry.mode output site.bundle tree answer := by
  cases entry with
  | noteSkipped step reason | noteFailed step reason => cases houtput
  | get | appendGet | exec | logs | fetch | write =>
      cases houtput
      cases hgiven
      rfl

/-- What is given is given for some output. -/
theorem given?_isSome_iff (cluster : Cluster) (entry : Entry) :
    (entry.given? cluster).isSome = entry.output?.isSome := by
  cases entry <;> rfl

/-- What an entry leaves behind. -/
def after (site : Site) (p : Progress) (entry : Entry) : Progress where
  tree := (entry.effect site p.tree).2
  tally := (entry.effect site p.tree).1.count entry.step entry.output? p.tally
  calls := p.calls ++ entry.call?.toList
  log := p.log ++ entry.call?.toList.flatMap site.cluster.notices ++
    [(entry.effect site p.tree).1.event entry.step]

theorem on_act (entry : Entry) :
    entry.act.on site p = ((entry.effect site p.tree).1.outcome, entry.after site p) := by
  cases entry with
  | get | appendGet | exec | logs | fetch =>
      simp only [act, Collect.get, Collect.appendGet, Collect.exec, Collect.logs, Collect.fetch,
        Collect.on_bind, Collect.on_ask, Collect.on_finish, effect, after, call?,
        Option.toList_some, List.flatMap_cons, List.flatMap_nil, List.append_nil]
      rfl
  | write =>
      simp only [act, Collect.write, Collect.on_finish, effect, after, call?, Option.toList_none,
        List.flatMap_nil, List.append_nil]
      rfl
  | noteSkipped | noteFailed =>
      simp [act, Collect.noteSkipped, Collect.noteFailed, effect, after, call?, Ending.outcome,
        Ending.count, Ending.event, step, output?]

end Entry

/-- A use of an entry point with what surrounds it. -/
structure Turn where
  /-- What the cluster is like at the time. -/
  cluster : Cluster
  entry : Entry
  /-- What others have done to the files since the turn before. -/
  meanwhile : File.Tree → File.Tree := id

/-- What was seen of a turn. -/
structure Moment where
  turn : Turn
  /-- The files as the entry finds them. -/
  before : File.Tree
  outcome : Outcome
  /-- The files as the entry leaves them. -/
  after : File.Tree

namespace Turn

/-- The progress that an entry finds. -/
def found (turn : Turn) (p : Progress) : Progress := { p with tree := turn.meanwhile p.tree }

/-- Takes a turn: the outcome and the progress after it. -/
def take (bundle : Bundle) (p : Progress) (turn : Turn) : Outcome × Progress :=
  turn.entry.act.on { cluster := turn.cluster, bundle } (turn.found p)

def takeAll (bundle : Bundle) (p : Progress) (turns : List Turn) : Progress :=
  turns.foldl (fun p turn => (turn.take bundle p).2) p

/-- What is seen of a turn that is taken. -/
def moment (bundle : Bundle) (p : Progress) (turn : Turn) : Moment where
  turn
  before := (turn.found p).tree
  outcome := (turn.take bundle p).1
  after := (turn.take bundle p).2.tree

/-- What is seen of turns that are taken in order. -/
def trace (bundle : Bundle) : Progress → List Turn → List Moment
  | _, [] => []
  | p, turn :: turns => turn.moment bundle p :: trace bundle (turn.take bundle p).2 turns

variable {bundle : Bundle} {p : Progress}

/-- What a turn comes to, by what its entry does to the files that it finds. -/
theorem take_eq (turn : Turn) :
    turn.take bundle p =
      ((turn.entry.effect { cluster := turn.cluster, bundle } (turn.meanwhile p.tree)).1.outcome,
        turn.entry.after { cluster := turn.cluster, bundle } (turn.found p)) :=
  Entry.on_act turn.entry

@[simp] theorem takeAll_nil : takeAll bundle p [] = p := rfl

@[simp] theorem takeAll_cons (turn : Turn) (turns : List Turn) :
    takeAll bundle p (turn :: turns) = takeAll bundle (turn.take bundle p).2 turns := rfl

theorem map_turn_trace (turns : List Turn) : (trace bundle p turns).map (·.turn) = turns := by
  induction turns generalizing p with
  | nil => rfl
  | cons turn turns ih => simp [trace, moment, ih]

end Turn

namespace Moment

/-- How the entry of a moment has to end. -/
def ending (bundle : Bundle) (moment : Moment) : Ending :=
  (moment.turn.entry.effect { cluster := moment.turn.cluster, bundle } moment.before).1

/-- The event that tells of a moment. -/
def event (bundle : Bundle) (moment : Moment) : Event :=
  (moment.ending bundle).event moment.turn.entry.step

/-- The record that a tally keeps of a moment. -/
def record? (bundle : Bundle) (moment : Moment) : Option StepRecord :=
  (moment.ending bundle).record? moment.turn.entry.step moment.turn.entry.output?

/-- What the client tells an observer during a moment. -/
def notices (moment : Moment) : List Event :=
  moment.turn.entry.call?.toList.flatMap moment.turn.cluster.notices

/-- Whether a moment is what its entry makes of the files that it finds. -/
structure Fits (bundle : Bundle) (moment : Moment) : Prop where
  outcome_eq : moment.outcome = (moment.ending bundle).outcome
  after_eq : moment.after =
    (moment.turn.entry.effect { cluster := moment.turn.cluster, bundle } moment.before).2

end Moment

namespace Turn

variable {bundle : Bundle} {p : Progress}

theorem fits_moment (turn : Turn) : (turn.moment bundle p).Fits bundle := by
  constructor
  · rw [moment, take_eq]
    rfl
  · rw [moment, take_eq]
    rfl

/-- Every moment of a trace is what its entry makes of the files that it finds. -/
theorem fits_of_mem_trace {turns : List Turn} :
    ∀ moment ∈ trace bundle p turns, moment.Fits bundle := by
  induction turns generalizing p with
  | nil => exact fun _ h => absurd h List.not_mem_nil
  | cons turn turns ih => exact List.forall_mem_cons.2 ⟨fits_moment turn, ih⟩

end Turn

end ClusterBundle
