import RegistryProbe.Bench
import RegistryProbe.Probe

/-! # Scoped work

  A scope runs a piece of work inside a new workspace and turns its end into an intent. The
  workspace is dropped before anything is reported, whichever way the work ends:

  - It returns: the scope ends with the intent of the workspace.
  - It fails: the error is reported and the scope fails, even if the work was marked as done.
  - It panics: the panic goes on outside, nothing is reported.

  `Body` is a language of such works: steps in a row, inner scopes among them.
-/

namespace RegistryProbe

/-- How a piece of work ends. -/
inductive Ending where
  /-- It comes to its end. -/
  | returned
  /-- It ends with an error. -/
  | failed (error : ProbeError)
  /-- It panics. -/
  | panicked
deriving DecidableEq, Repr

namespace Session

/-- Runs a piece of work inside a new workspace. The work is given the workspace and leaves its
    intent. The result is the intent of the scope; `none` if a panic goes on outside. -/
def runScope (program : String) (work : Workspace → Session → Ending × Intent × Session)
    (s : Session) : Option Intent × Session :=
  match s.setup with
  | (.error e, s) =>
    let (intent, s) := s.report program e
    (some intent, s)
  | (.ok w, s) =>
    let (ending, intent, s) := work w s
    let s := s.drop { w with intent := intent }
    match ending with
    | .returned => (some intent, s)
    | .failed e =>
      let (intent, s) := s.report program e
      (some intent, s)
    | .panicked => (none, s)

end Session

/-! ### Works made of steps -/

/-- A step of a work. -/
inductive Action where
  /-- Makes a probe whose output lies in the workspace. If it fails the work ends, unless it is to
      go on. -/
  | probe (e : Errand) (net : Network) (goesOn : Bool)
  /-- Marks the work as done. -/
  | finish
  /-- Ends the work with an error. -/
  | fail (error : ProbeError)
  /-- Ends the work here. -/
  | leave
  /-- Panics. -/
  | panic
  /-- Removes the directory of the workspace. -/
  | vanish
  /-- Changes files inside the workspace. -/
  | change (c : Files.Change)

/-- A work made of steps and inner scopes. -/
inductive Body where
  /-- The work is at its end. -/
  | done
  /-- A step, then more. -/
  | act (action : Action) (rest : Body)
  /-- An inner scope, then more. -/
  | scope (program : String) (inner : Body) (rest : Body)

namespace Session

/-- Enters what can be seen of a workspace after a step. -/
def observe (answer : StepAnswer) (w : Workspace) (s : Session) : Session :=
  s.note (.observed ⟨answer, w.intent, s.disk.listing w.path⟩)

/-- Takes a step. The result tells how the work ends here, if it does. -/
def act (root : ApiRoot) (action : Action) (w : Workspace) (s : Session) :
    Option Ending × Workspace × Session :=
  match action with
  | .probe e net goesOn =>
    let (result, s) := s.perform net root (e.inside w.path)
    let s := s.observe (.probed result) w
    match result with
    | .ok _ => (none, w, s)
    | .error e => (if goesOn then none else some (.failed e), w, s)
  | .finish => (none, w.finish, s.observe .silent w.finish)
  | .fail e => (some (.failed e), w, s.observe .silent w)
  | .leave => (some .returned, w, s.observe .silent w)
  | .panic => (some .panicked, w, s)
  | .vanish =>
    let (disk, result) := s.disk.removeDirectory w.path
    (none, w, { s with disk := disk }.observe (.tried result.isOk) w)
  | .change c =>
    let (succeeded, s) := s.change (c.inside w.path)
    (none, w, s.observe (.tried succeeded) w)

end Session

namespace Body

/-- Runs a work inside a workspace. -/
def run (root : ApiRoot) : Body → Workspace → Session → Ending × Intent × Session
  | .done, w, s => (.returned, w.intent, s)
  | .act action rest, w, s =>
    match s.act root action w with
    | (none, w, s) => rest.run root w s
    | (some ending, w, s) => (ending, w.intent, s)
  | .scope program inner rest, w, s =>
    match s.runScope program (inner.run root) with
    | (some intent, s) => rest.run root w (s.observe (.inner intent) w)
    | (none, s) => (.panicked, w.intent, s)

end Body

end RegistryProbe
