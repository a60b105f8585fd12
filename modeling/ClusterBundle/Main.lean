import ClusterBundle.CommandLine.Program

/-!
The program as a command: it takes its surroundings from the system, runs, and puts what comes of
it back into the system.

Programs cannot be started and connections cannot be made from here. Every request therefore fails
as it does where the tool is missing, and the bundle says so.
-/

namespace ClusterBundle.Main

/-- The variables that the system gave the program. -/
def environment : IO Settings.Environment := do
  let bytes ← IO.FS.readBinFile "/proc/self/environ"
  let entries := Text.split (Char.ofNat 0) (Utf8.lossy bytes.toList)
  return entries.filterMap fun entry =>
    (Text.cutAt '=' entry.toList).map fun (name, value) =>
      (String.ofList name, String.ofList value)

/-- The time at which a new file is made. -/
def now : IO Calendar.Instant := do
  let (_, path) ← IO.FS.createTempFile
  let time := (← path.metadata).modified
  IO.FS.removeFile path
  return { seconds := time.sec, nanos := time.nsec.toNat }

def pathOf (place : File.Place) : String := "/" ++ Text.joinWith "/" place

/-- Adds what is found at a place to a tree, with everything below it where that is wanted. -/
partial def snapshot (deep : Bool) (tree : File.Tree) (place : File.Place) : IO File.Tree := do
  try
    let path ← IO.FS.realPath (pathOf place)
    if ← path.isDir then
      let mut tree := if place.isEmpty then tree else tree.insert place .directory
      if deep then
        for entry in ← path.readDir do
          tree ← snapshot deep tree (place ++ [entry.fileName])
      return tree
    else
      let content ← IO.FS.readBinFile path
      return tree.insert place (.file content.toList)
  catch _ => return tree

/-- The part of the file system that a run on a target looks at. -/
def treeAround (target : Target) : IO File.Tree := do
  let place := Path.components target.destination
  let mut tree := File.Tree.empty
  for depth in List.range place.length do
    tree ← snapshot false tree (place.take depth)
  snapshot true tree place

/-- Puts the entries of a tree that differ from those of another into the file system. -/
def store (before after : File.Tree) : IO Unit := do
  let changed := after.entries.filter fun (place, entry) => before.find? place ≠ some entry
  let byDepth := changed.mergeSort fun a b => decide (a.1.length ≤ b.1.length)
  for (place, entry) in byDepth do
    match entry with
    | .directory => IO.FS.createDirAll (pathOf place)
    | .file content => IO.FS.writeBinFile (pathOf place) ⟨content.toArray⟩

/-- The target that arguments ask for, if they ask for one. -/
def target? (workingDirectory : String) (arguments : List String) : Option Target :=
  match CommandLine.parse arguments with
  | .ok (.collect options) =>
      Target.make? workingDirectory options.operator options.ns options.destination
  | _ => none

def run (arguments : List String) : IO UInt32 := do
  let workingDirectory := (← IO.currentDir).toString
  let tree ← match target? workingDirectory arguments with
    | some target => treeAround target
    | none => pure File.Tree.empty
  let time ← now
  let ended := CommandLine.run
    { arguments
      environment := ← environment
      workingDirectory
      tree
      launch := fun _ _ _ => .notStarted .notFound
      network := { exchange := fun _ => .error "no network" }
      cacheDirectory := ""
      colours := (← IO.getEnv "NO_COLOR").isNone
      started := time
      finished := time }
  store tree ended.tree
  IO.print ended.printed.stdout
  IO.eprint ended.printed.stderr
  return UInt32.ofNat ended.exit

end ClusterBundle.Main

def main (arguments : List String) : IO UInt32 := ClusterBundle.Main.run arguments
