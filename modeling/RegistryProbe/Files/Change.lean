import RegistryProbe.Files.Disk

/-! # Changes to files

  The changes that somebody makes on a disk besides the program's own writing. A change that fails
  may still have made some of the directories it was to make.
-/

namespace RegistryProbe.Files

/-- A change at a path. -/
inductive Change where
  /-- Makes a directory and the ones above it that are missing. -/
  | makeDirectories (path : String)
  /-- Writes a file. -/
  | write (path : String) (content : Bytes)
  /-- Removes a file, or a directory with all below it. -/
  | remove (path : String)
deriving DecidableEq, Repr

namespace Change

/-- The change whose path is seen from a directory. -/
def inside (base : String) : Change → Change
  | makeDirectories path => makeDirectories (PathText.join base path)
  | write path content => write (PathText.join base path) content
  | remove path => remove (PathText.join base path)

/-- Makes a change on a disk. -/
def apply (d : Disk) : Change → Disk × Except Fault Unit
  | makeDirectories path => d.makeDirectories path
  | write path content =>
    match d.write path content with
    | .ok d => (d, .ok ())
    | .error f => (d, .error f)
  | remove path => d.remove path

end Change

end RegistryProbe.Files
