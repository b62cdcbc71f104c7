import RegistryProbe.Files.Fault
import RegistryProbe.Files.PathText

/-! # A disk with a working directory

  Operations on files name their place by a path. The path is walked from left to right, and the
  first name that does not lead on decides how the operation fails:

  - A missing name is `missing`, a file in the middle is `notDirectory`, and a name of more than
    255 bytes is `nameTooLong`.
  - `.` stays in a directory and `..` goes to the one that holds it.
  - A path that is empty, holds NUL or is too long as a whole fails before it is walked.
-/

namespace RegistryProbe.Files

/-- The files and the place where relative paths start. -/
structure Disk where
  /-- All files and directories. -/
  tree : Tree
  /-- The working directory. -/
  home : Location
deriving Repr

namespace Disk

/-! ### Finding a place -/

/-- The place that a name leads to from a directory, whether or not something stands there. -/
def descend (p : Location) (name : String) : Except Fault Location :=
  if name = "." then .ok p
  else if name = ".." then .ok p.dropLast
  else if PathText.maxName < name.utf8ByteSize then .error .nameTooLong
  else .ok (p ++ [name])

/-- The directory at a place; otherwise why there is none. -/
def expectDirectory (t : Tree) (p : Location) : Except Fault Location :=
  match t.look? p with
  | some .directory => .ok p
  | some (.file _) => .error .notDirectory
  | none => .error .missing

/-- The directory that a name leads to from a directory. -/
def enter (t : Tree) (p : Location) (name : String) : Except Fault Location := do
  expectDirectory t (← descend p name)

/-- The directory that names lead to from a place. -/
def walk (t : Tree) (p : Location) (names : List String) : Except Fault Location := do
  names.foldlM (enter t) (← expectDirectory t p)

/-- Refuses the paths that are refused as a whole. -/
def checkPath (path : String) : Except Fault Unit :=
  if path.toList.contains '\x00' then .error .nulInName
  else if path = "" then .error .missing
  else if PathText.maxPath ≤ path.utf8ByteSize then .error .nameTooLong
  else .ok ()

/-- Where the walk along a path starts. -/
def startOf (d : Disk) (path : String) : Location :=
  if PathText.isAbsolute path then [] else d.home

/-- The last name of a path, as seen from its directory: the place of whatever stands there. A slash
    at the end of the path asks for a directory. -/
def find (t : Tree) (parent : Location) (slash : Bool) (name : String) : Except Fault Location := do
  let p ← descend parent name
  match t.look? p with
  | none => .error .missing
  | some (.file _) => if slash then .error .notDirectory else .ok p
  | some .directory => .ok p

/-- The directory in which the last name of a path is looked up. -/
def parentOf (d : Disk) (path : String) : Except Fault Location := do
  checkPath path
  walk d.tree (d.startOf path) (PathText.names path).dropLast

/-- The place of whatever stands at a path. -/
def locate (d : Disk) (path : String) : Except Fault Location := do
  let parent ← d.parentOf path
  match (PathText.names path).getLast? with
  | none => .ok parent
  | some name => find d.tree parent (PathText.endsInSlash path) name

/-- What stands at a path. -/
def look? (d : Disk) (path : String) : Option Entry :=
  match d.locate path with
  | .ok p => d.tree.look? p
  | .error _ => none

/-! ### Writing a file -/

/-- A name that a node can have; `.` and `..` are none. -/
def isProper (name : String) : Bool := name ≠ "." && name ≠ ".."

/-- The last name of a path under which a file is written: no directory stands there. -/
def findFile (t : Tree) (parent : Location) (slash : Bool) (name : String) :
    Except Fault Location :=
  if slash || !isProper name then .error .isDirectory
  else do
    let p ← descend parent name
    if t.look? p = some .directory then .error .isDirectory else .ok p

/-- The place where a file is written. -/
def fileTarget (d : Disk) (path : String) : Except Fault Location := do
  let parent ← d.parentOf path
  match (PathText.names path).getLast? with
  | none => .error .isDirectory
  | some name => findFile d.tree parent (PathText.endsInSlash path) name

/-- Writes a file, in place of an earlier one. -/
def write (d : Disk) (path : String) (content : Bytes) : Except Fault Disk := do
  let p ← d.fileTarget path
  return { d with tree := d.tree.put (.file content) p }

/-! ### Making directories -/

/-- The last name of a path under which a directory is made: nothing stands there. -/
def findNew (t : Tree) (parent : Location) (name : String) : Except Fault Location :=
  if !isProper name then .error .alreadyExists
  else do
    let p ← descend parent name
    if (t.look? p).isSome then .error .alreadyExists else .ok p

/-- The place where a directory is made. -/
def directoryTarget (d : Disk) (path : String) : Except Fault Location := do
  let parent ← d.parentOf path
  match (PathText.names path).getLast? with
  | none => .error .alreadyExists
  | some name => findNew d.tree parent name

/-- Makes one directory. -/
def makeDirectory (d : Disk) (path : String) : Except Fault Disk := do
  let p ← d.directoryTarget path
  return { d with tree := d.tree.put (.directory []) p }

/-- Goes along names from a directory and makes what is missing. What was made stays even if a later
    name does not lead on. -/
def makeAlong (d : Disk) (p : Location) : List String → Disk × Except Fault Unit
  | [] => (d, .ok ())
  | name :: rest =>
    match enter d.tree p name with
    | .ok q => d.makeAlong q rest
    | .error .missing =>
      -- a directory that is given only as `name/.` has to stand already
      if rest ≠ [] ∧ rest.all (· = ".") then (d, .error .missing)
      else
        let q := p ++ [name]
        { d with tree := d.tree.put (.directory []) q }.makeAlong q rest
    | .error f => (d, .error f)

/-- Makes a directory and the ones above it that are missing. -/
def makeDirectories (d : Disk) (path : String) : Disk × Except Fault Unit :=
  if path = "" then (d, .ok ())
  else
    match checkPath path, expectDirectory d.tree (d.startOf path) with
    | .error f, _ => (d, .error f)
    | _, .error f => (d, .error f)
    | .ok (), .ok p => d.makeAlong p (PathText.names path)

/-! ### Removing -/

/-- The places that names lead to from a place, one after the other, as far as they can be
    followed. -/
def places (p : Location) : List String → List Location
  | [] => []
  | name :: rest =>
    match descend p name with
    | .ok q => q :: places q rest
    | .error _ => []

/-- The places on the way along a path, without its last name. -/
def wayTo (d : Disk) (path : String) : List Location :=
  places (d.startOf path) (PathText.names path).dropLast

/-- Whether a place lies below another one. -/
def isBelow (p q : Location) : Bool := p.isPrefixOf q && p.length < q.length

/-- Removes a directory with all below it. The content goes first, and then the path is followed
    once more to the directory itself:

    - If the way leads through what is already gone, the directory stays and nothing is told.
    - If the last name is `.` or `..`, the directory stays and the operation fails. -/
def removeDirectory (d : Disk) (path : String) : Disk × Except Fault Unit :=
  match d.locate path with
  | .error f => (d, .error f)
  | .ok p =>
    match d.tree.look? p with
    | some .directory =>
      let emptied := { d with tree := d.tree.clear p }
      if (d.wayTo path).any (isBelow p) then (emptied, .ok ())
      else if (PathText.names path).getLast?.any isProper then
        ({ d with tree := d.tree.prune p }, .ok ())
      else (emptied, .error .invalidArgument)
    | _ => (d, .error .notDirectory)

/-- Removes a file, or a directory with all below it. -/
def remove (d : Disk) (path : String) : Disk × Except Fault Unit :=
  match d.locate path with
  | .error f => (d, .error f)
  | .ok p =>
    match d.tree.look? p with
    | some (.file _) => ({ d with tree := d.tree.prune p }, .ok ())
    | _ => d.removeDirectory path

end Disk

end RegistryProbe.Files
