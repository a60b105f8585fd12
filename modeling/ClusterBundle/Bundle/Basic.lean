import ClusterBundle.File.Operation

/-!
The bundle: a directory that files are collected in, by paths relative to its root.

A path has to stay inside the bundle and to name something in it. A file is written next to its
place first and then moved there, so a failed write leaves whatever was there before.
-/

namespace ClusterBundle

structure Bundle where
  root : String
  deriving Repr, DecidableEq

namespace Bundle

inductive Fault where
  /-- A path that leads out of the bundle or names nothing in it. -/
  | outside (path : String)
  | io (path : String) (fault : IoFault)
  deriving Repr, DecidableEq

namespace Fault

def message : Fault → String
  | .outside path => s!"refusing to write outside the bundle: {path}"
  | .io path fault => s!"failed to write {path}: {fault.message}"

/-- The texts of the faults that a fault comes from. -/
def sources : Fault → List String
  | .outside _ => []
  | .io _ fault => [fault.message]

end Fault

/-- Whether a path stays inside the bundle and names something in it. -/
def accepts (path : String) : Bool :=
  let names := Path.components path
  !Path.isAbsolute path && !names.isEmpty && !names.contains ".."

/-- The full path of a place in the bundle. -/
def resolve (bundle : Bundle) (path : String) : Except Fault String :=
  if accepts path then .ok (Path.join bundle.root path) else .error (.outside path)

/-- The name under which a file is written before it takes its place. -/
def stagingName (name : String) : String := s!".{name}.partial"

/-- The directory that a full path lies in. -/
def directoryOf (bundle : Bundle) (path : String) : String :=
  (Path.parent? path).getD bundle.root

/-- The path at which a file is written before it takes its place. -/
def stagingPath (bundle : Bundle) (path : String) : String :=
  Path.join (bundle.directoryOf path) (stagingName ((Path.fileName? path).getD ""))

/-- What an operation on a bundle comes to: the full path or a fault, and the tree after it. -/
abbrev Written := Except Fault String × File.Tree

/-- The tree without the file at a path, if there is one. -/
def discardFile (tree : File.Tree) (path : String) : File.Tree :=
  match File.remove tree path with
  | .ok tree => tree
  | .error _ => tree

/-- Makes a directory in the bundle and those around it. -/
def createDirectory (bundle : Bundle) (tree : File.Tree) (path : String) : Written :=
  match bundle.resolve path with
  | .error fault => (.error fault, tree)
  | .ok full =>
      match File.createAll tree full with
      | (.ok (), tree) => (.ok full, tree)
      | (.error fault, tree) => (.error (.io full fault), tree)

/-- Writes a file at a full path by way of its staging path. -/
def replace (bundle : Bundle) (tree : File.Tree) (full : String) (content : Bytes) : Written :=
  let staging := bundle.stagingPath full
  match File.write tree staging content with
  | .error fault => (.error (.io full fault), discardFile tree staging)
  | .ok staged =>
      match File.rename staged staging full with
      | .ok tree => (.ok full, tree)
      | .error fault => (.error (.io full fault), discardFile staged staging)

/-- Adds to a file at a full path. -/
def extend (tree : File.Tree) (full : String) (content : Bytes) : Written :=
  match File.append tree full content with
  | .ok tree => (.ok full, tree)
  | .error fault => (.error (.io full fault), tree)

/-- Does something with a full path in the bundle after the directory around it was made. -/
def within (bundle : Bundle) (tree : File.Tree) (path : String)
    (act : File.Tree → String → Written) : Written :=
  match bundle.resolve path with
  | .error fault => (.error fault, tree)
  | .ok full =>
      let directory := bundle.directoryOf full
      match File.createAll tree directory with
      | (.error fault, tree) => (.error (.io directory fault), tree)
      | (.ok (), tree) => act tree full

/-- Gives a file in the bundle a content, whatever it held before. -/
def write (bundle : Bundle) (tree : File.Tree) (path : String) (content : Bytes) : Written :=
  bundle.within tree path fun tree full => bundle.replace tree full content

/-- Adds to the end of a file in the bundle, which need not exist. -/
def append (bundle : Bundle) (tree : File.Tree) (path : String) (content : Bytes) : Written :=
  bundle.within tree path fun tree full => extend tree full content

end Bundle

end ClusterBundle
