import ClusterBundle.Bundle.Basic
import ClusterBundle.Cluster.Basic
import ClusterBundle.Collection.Tally

/-!
Collecting answers of a cluster into a bundle.

Each collecting operation makes one request, writes the answer into the bundle and tallies what
came of it. None of them fails: a failure is an outcome, so whatever comes next goes on.
-/

namespace ClusterBundle

/-- Where a collection reads from and where it writes to. -/
structure Site where
  cluster : Cluster
  bundle : Bundle

/-- What a collection has done so far. -/
structure Progress where
  tree : File.Tree
  tally : Tally := {}
  /-- The requests made, in order. -/
  calls : List Cluster.Call := []
  /-- The events, in order. -/
  log : List Event := []

/-- A computation that collects. -/
abbrev Collect := ReaderT Site (StateM Progress)

namespace Collect

open Cluster (Call Failure Query Container LogSource)

def emit (events : List Event) : Collect Unit :=
  modify fun progress => { progress with log := progress.log ++ events }

/-- Makes a request of the cluster. -/
def ask (call : Call) : Collect (Except Failure Bytes) := do
  let site ← read
  modify fun progress => { progress with calls := progress.calls ++ [call] }
  emit (site.cluster.notices call)
  return site.cluster.answer call

/-- Does something to the tree of files. -/
def inTree {α : Type} (act : Bundle → File.Tree → α × File.Tree) : Collect α := do
  let site ← read
  modifyGet fun progress =>
    let (result, tree) := act site.bundle progress.tree
    (result, { progress with tree })

def recordWritten (step : Step) (path : String) : Collect Outcome := do
  modify fun progress => { progress with tally := progress.tally.addWritten }
  emit [Tally.writtenEvent step path]
  return .written

def recordSkipped (step : Step) (reason : String) (output : Option String) : Collect Outcome := do
  modify fun progress => { progress with tally := progress.tally.addSkipped step reason output }
  emit [Tally.skippedEvent step reason]
  return .skipped

def recordFailed (step : Step) (reason : String) (output : Option String) : Collect Outcome := do
  modify fun progress => { progress with tally := progress.tally.addFailed step reason output }
  emit [Tally.failedEvent step reason]
  return .failed

/-- Tallies a step that was not tried because something it needs is missing. -/
def noteSkipped (step : Step) (reason : String) : Collect Unit := do
  discard (recordSkipped step reason none)

/-- Tallies a failure outside of a collecting operation. -/
def noteFailed (step : Step) (reason : String) : Collect Unit := do
  discard (recordFailed step reason none)

/-- How an answer is put into the bundle. -/
inductive Mode where
  | replace
  | append
  deriving Repr, DecidableEq

def Mode.put (mode : Mode) (path : String) (content : Bytes) (bundle : Bundle)
    (tree : File.Tree) : Bundle.Written :=
  match mode with
  | .replace => bundle.write tree path content
  | .append => bundle.append tree path content

/-- Puts an answer into the bundle and tallies the outcome. Absence is a reason to skip a step;
every other failure is one to count it as failed. -/
def finish (mode : Mode) (step : Step) (output : String) (answer : Except Failure Bytes) :
    Collect Outcome := do
  match answer with
  | .error failure =>
      if failure.isNotFound then recordSkipped step failure.message (some output)
      else recordFailed step failure.message (some output)
  | .ok content =>
      match ← inTree (mode.put output content) with
      | .ok path => recordWritten step path
      | .error fault => recordFailed step fault.message (some output)

/-- Collects objects into a file. -/
def get (query : Query) (output : String) : Collect Outcome := do
  finish .replace (.ofQuery query) output (← ask (.get query))

/-- Collects objects at the end of a file. -/
def appendGet (query : Query) (output : String) : Collect Outcome := do
  finish .append (.ofQuery query) output (← ask (.get query))

/-- Collects the output of a command that is run in a container. -/
def exec (container : Container) (command : List String) (output : String) : Collect Outcome := do
  finish .replace (.ofCommand container command) output (← ask (.exec container command))

/-- Collects a log. -/
def logs (source : LogSource) (output : String) : Collect Outcome := do
  finish .replace (.ofLog source) output (← ask (.logs source))

/-- Collects what is behind an address of the cluster. -/
def fetch (url token : String) (certificates : Bytes) (output : String) : Collect Outcome := do
  finish .replace (.ofFetch url) output (← ask (.fetch url token certificates))

/-- Collects content that is known already. -/
def write (step : Step) (output : String) (content : Bytes) : Collect Outcome :=
  finish .replace step output (.ok content)

end Collect

end ClusterBundle
