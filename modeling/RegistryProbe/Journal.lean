import RegistryProbe.Files.Tree
import RegistryProbe.Http
import RegistryProbe.Intent
import RegistryProbe.Outcome
import RegistryProbe.ProbeError

/-! # The journal of a session

  Everything that a session does is entered into its journal, the earliest first. What was sent,
  printed or logged is read off from there, and so is the order in which things happened.
-/

namespace RegistryProbe

/-- What a step of a scope answered. -/
inductive StepAnswer where
  /-- A probe was made. -/
  | probed (result : Except ProbeError Outcome)
  /-- A file operation was tried. -/
  | tried (succeeded : Bool)
  /-- An inner scope ended. -/
  | inner (intent : Intent)
  /-- The step has no answer of its own. -/
  | silent

/-- What can be seen of a workspace after a step. -/
structure Observation where
  /-- The answer of the step. -/
  answer : StepAnswer
  /-- The intent of the workspace. -/
  intent : Intent
  /-- Everything below the workspace. -/
  files : List (String × Files.Entry)

/-- One thing that happened. -/
inductive Event where
  /-- A request went out. -/
  | sent (request : Request)
  /-- A whole response came in. -/
  | received (status : UInt16) (finalUrl : String) (size : Nat)
  /-- A response came from another address than the one asked. -/
  | redirected (url finalUrl : String)
  /-- A response was saved in two files. -/
  | saved (bodyPath statusPath : String)
  /-- A body was no document. -/
  | notJson (url : String)
  /-- A response was accepted. -/
  | accepted (url : String) (status : UInt16)
  /-- A workspace directory was made. -/
  | workspaceMade (path : String)
  /-- The guard of a workspace ran and left nothing behind. -/
  | workspaceLeft (path : String)
  /-- A workspace was closed. -/
  | workspaceClosed (path : String) (intent : Intent)
  /-- An error was reported. -/
  | reported (program : String) (error : ProbeError)
  /-- A line was printed. -/
  | printed (line : String)
  /-- The registry told an error about an endpoint. -/
  | detail (endpoint text : String)
  /-- A scan stops at an endpoint. -/
  | stopped (endpoint : String)
  /-- A step of a scope was observed. -/
  | observed (o : Observation)

namespace Event

/-- The request that went out. -/
def sent? : Event → Option Request
  | sent r => some r
  | _ => none

/-- The line that was printed. -/
def printed? : Event → Option String
  | printed line => some line
  | _ => none

/-- The error that was reported. -/
def reported? : Event → Option ProbeError
  | reported _ e => some e
  | _ => none

/-- The observation that was made. -/
def observed? : Event → Option Observation
  | observed o => some o
  | _ => none

end Event

end RegistryProbe
