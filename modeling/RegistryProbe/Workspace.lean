import RegistryProbe.Session

/-! # Workspaces

  A workspace is a directory of its own for a piece of work. Its name is new: a name that is taken
  is skipped. The directory goes when the work ends, however it ends.

  - The intent of a workspace is `aborted` until the work is marked as done.
  - `close` and `drop` remove the directory with all below it. They differ in what they tell:
    `close` tells why nothing could be removed, `drop` tells nothing.
-/

namespace RegistryProbe

/-- What the name of every workspace begins with. -/
def workspacePrefix : String := "registry-check."

/-- How many names are tried for a workspace. -/
def workspaceAttempts : Nat := 65536

/-- A directory for a piece of work. -/
structure Workspace where
  /-- Its absolute path. -/
  path : String
  /-- How the work in it is about to end. -/
  intent : Intent
deriving DecidableEq, Repr

/-- Marks the work in a workspace as done. -/
def Workspace.finish (w : Workspace) : Workspace := { w with intent := .completed }

namespace Session

/-- A path as seen from the working directory. -/
def absolute (s : Session) (path : String) : String :=
  Files.PathText.join (Files.PathText.ofLocation s.disk.home) path

/-- Draws a tag. -/
def draw (s : Session) : Tag × Session := (s.tags s.drawn, { s with drawn := s.drawn + 1 })

/-- Makes a directory under a new name in `base`, with at most so many attempts. Also tells the path
    that could not be made. -/
def makeUnder (base : String) : Nat → Session → Except (Files.Fault × String) String × Session
  | 0, s => (.error (.namesExhausted, base), s)
  | attempts + 1, s =>
    let (tag, s) := s.draw
    let path := Files.PathText.join base (workspacePrefix ++ tag.text)
    match s.disk.makeDirectory path with
    | .ok disk => (.ok path, { s with disk := disk })
    | .error .alreadyExists => makeUnder base attempts s
    | .error f => (.error (f, path), s)

/-- Makes a workspace in a directory. -/
def setupIn (parent : String) (s : Session) : Except ProbeError Workspace × Session :=
  match makeUnder (s.absolute parent) workspaceAttempts s with
  | (.error (f, path), s) => (.error (.file .creatingWorkspace parent (.faultAt f path)), s)
  | (.ok path, s) => (.ok ⟨path, .aborted⟩, s.note (.workspaceMade path))

/-- Makes a workspace in the directory for temporary files. -/
def setup (s : Session) : Except ProbeError Workspace × Session := s.setupIn s.temp

/-- Ends a workspace and tells its intent, or why its directory could not be removed. -/
def close (w : Workspace) (s : Session) : Except ProbeError Intent × Session :=
  let (disk, removed) := s.disk.removeDirectory w.path
  let s := { s with disk := disk }
  match removed with
  | .error f => (.error (.file .removingWorkspace w.path (.faultAt f w.path)), s)
  | .ok () => (.ok w.intent, s.note (.workspaceClosed w.path w.intent))

/-- Ends a workspace without a word. -/
def drop (w : Workspace) (s : Session) : Session :=
  { s with disk := (s.disk.removeDirectory w.path).1 }.note (.workspaceLeft w.path)

end Session

end RegistryProbe
