import ClusterBundle.File.Path
import ClusterBundle.File.Tree

/-!
File operations on a tree, by absolute path.

A path is walked name by name: each name but the last has to lead to a directory. Every operation
on one place leaves the tree as it was if it fails; only `createAll`, which makes several
directories in turn, can fail after having made some of them.
-/

namespace ClusterBundle.File

/-- Where a path ends. -/
inductive Spot where
  /-- A directory that exists: the path is the root or ends with `.` or `..`. -/
  | directory (place : Place)
  /-- A name in a directory that exists; `slash` says whether a slash stands behind the name. -/
  | name (parent : Place) (name : String) (slash : Bool)
  deriving Repr, DecidableEq

/-- The most bytes that a name may have. -/
def maxName : Nat := 255

/-- The bytes from which on a path is too long. -/
def pathLimit : Nat := 4096

def isTooLong (name : String) : Bool := maxName < (Utf8.encode name).length

/-- Follows names from a directory through directories. -/
def walk (tree : Tree) : Place → List String → Except IoFault Place
  | here, [] => .ok here
  | here, piece :: rest =>
      if piece = "." then walk tree here rest
      else if piece = ".." then walk tree here.dropLast rest
      else if isTooLong piece then .error .nameTooLong
      else
        match tree.find? (here ++ [piece]) with
        | some .directory => walk tree (here ++ [piece]) rest
        | some (.file _) => .error .notDirectory
        | none => .error .notFound

/-- Finds where a path ends. -/
def locate (tree : Tree) (path : String) : Except IoFault Spot :=
  if path.toList.contains '\x00' then .error .nulInPath
  else if path = "" then .error .notFound
  else if pathLimit ≤ (Utf8.encode path).length then .error .nameTooLong
  else
    let steps := (Path.pieces path).filter (· ≠ "")
    match steps.getLast? with
    | none => .ok (.directory [])
    | some last =>
        match walk tree [] steps.dropLast with
        | .error fault => .error fault
        | .ok parent =>
            if last = "." then .ok (.directory parent)
            else if last = ".." then .ok (.directory parent.dropLast)
            else .ok (.name parent last (Path.endsWithSlash path))

/-- What a path leads to, with the place of it. -/
def stat (tree : Tree) (path : String) : Except IoFault (Place × Entry) :=
  match locate tree path with
  | .error fault => .error fault
  | .ok (.directory place) => .ok (place, .directory)
  | .ok (.name parent name slash) =>
      if isTooLong name then .error .nameTooLong
      else
        match tree.find? (parent ++ [name]) with
        | none => .error .notFound
        | some .directory => .ok (parent ++ [name], .directory)
        | some (.file content) =>
            if slash then .error .notDirectory else .ok (parent ++ [name], .file content)

def isDirectory (tree : Tree) (path : String) : Bool :=
  match stat tree path with
  | .ok (_, .directory) => true
  | _ => false

/-- The content of a file. -/
def read (tree : Tree) (path : String) : Except IoFault Bytes :=
  match stat tree path with
  | .error fault => .error fault
  | .ok (_, .directory) => .error .isDirectory
  | .ok (_, .file content) => .ok content

/-- Makes a directory where nothing was. -/
def makeDirectory (tree : Tree) (path : String) : Except IoFault Tree :=
  match locate tree path with
  | .error fault => .error fault
  | .ok (.directory _) => .error .alreadyExists
  | .ok (.name parent name _) =>
      if isTooLong name then .error .nameTooLong
      else
        match tree.find? (parent ++ [name]) with
        | some _ => .error .alreadyExists
        | none => .ok (tree.insert (parent ++ [name]) .directory)

/-- The place of a file that is to be written and the content that it has so far. -/
def openToWrite (tree : Tree) (path : String) : Except IoFault (Place × Bytes) :=
  match locate tree path with
  | .error fault => .error fault
  | .ok (.directory _) => .error .isDirectory
  | .ok (.name parent name slash) =>
      if slash then .error .isDirectory
      else if isTooLong name then .error .nameTooLong
      else
        match tree.find? (parent ++ [name]) with
        | some .directory => .error .isDirectory
        | some (.file content) => .ok (parent ++ [name], content)
        | none => .ok (parent ++ [name], [])

/-- Gives a file a content, whatever it held before. -/
def write (tree : Tree) (path : String) (content : Bytes) : Except IoFault Tree :=
  (openToWrite tree path).map fun (place, _) => tree.insert place (.file content)

/-- Adds to the end of a file, which need not exist. -/
def append (tree : Tree) (path : String) (content : Bytes) : Except IoFault Tree :=
  (openToWrite tree path).map fun (place, old) => tree.insert place (.file (old ++ content))

/-- Removes a file. -/
def remove (tree : Tree) (path : String) : Except IoFault Tree :=
  match stat tree path with
  | .error fault => .error fault
  | .ok (_, .directory) => .error .isDirectory
  | .ok (place, .file _) => .ok (tree.erase place)

/-- Moves a file to another path, where it replaces a file. -/
def rename (tree : Tree) (source target : String) : Except IoFault Tree :=
  match stat tree source, locate tree target with
  | .error fault, _ => .error fault
  | .ok _, .error fault => .error fault
  | .ok _, .ok (.directory _) => .error .busy
  | .ok (_, .directory), .ok _ => .error .isDirectory
  | .ok (place, .file content), .ok (.name parent name slash) =>
      if isTooLong name then .error .nameTooLong
      else if slash then .error .notDirectory
      else if tree.isDirectory (parent ++ [name]) then .error .isDirectory
      else .ok ((tree.erase place).insert (parent ++ [name]) (.file content))

/-- Makes the first of some nested directories, given from the innermost to the outermost, and
those around it as far as they are missing. The tree is returned as it is in the end, also where
that fails. -/
def createNested (tree : Tree) : List String → Except IoFault Unit × Tree
  | [] => (.error (.other "failed to create whole tree"), tree)
  | path :: outer =>
      match makeDirectory tree path with
      | .ok made => (.ok (), made)
      | .error fault =>
          if fault = .notFound then
            match createNested tree outer with
            | (.error fault, grown) => (.error fault, grown)
            | (.ok (), grown) =>
                match makeDirectory grown path with
                | .ok made => (.ok (), made)
                | .error fault =>
                    if isDirectory grown path then (.ok (), grown) else (.error fault, grown)
          else if isDirectory tree path then (.ok (), tree)
          else (.error fault, tree)

/-- Makes a directory and those around it as far as they are missing. -/
def createAll (tree : Tree) (path : String) : Except IoFault Unit × Tree :=
  if path = "" then (.ok (), tree) else createNested tree (path :: Path.parents path)

end ClusterBundle.File
