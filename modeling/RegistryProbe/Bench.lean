import RegistryProbe.Workspace

/-! # Several workspaces side by side

  A bench holds any number of workspaces, each under an id, in the order in which they were set up.
  A workspace that was closed or dropped stays on the bench as spent; nothing can be done with it
  any more.
-/

namespace RegistryProbe

/-- A workspace on a bench. -/
structure Slot where
  /-- The id it goes by. -/
  id : String
  /-- The path of its directory. -/
  path : String
  /-- Its intent; `none` once it is spent. -/
  intent : Option Intent
deriving DecidableEq, Repr

/-- A session and its workspaces. -/
structure Bench where
  /-- The session. -/
  session : Session
  /-- The workspaces in the order in which they were set up. -/
  slots : List Slot

/-- A step at a bench. -/
inductive BenchStep where
  /-- Sets up a workspace, in a given directory or in the one for temporary files. -/
  | setup (id : String) (parent : Option String)
  /-- Marks the work in a workspace as done. -/
  | finish (id : String)
  /-- Closes a workspace. -/
  | close (id : String)
  /-- Drops a workspace. -/
  | drop (id : String)
  /-- Changes files, inside a workspace or at a path of its own. -/
  | change (id : Option String) (c : Files.Change)
deriving DecidableEq, Repr

/-- The answer to a step at a bench. -/
inductive BenchAnswer where
  /-- Whether there was a workspace to act on. -/
  | ok (acted : Bool)
  /-- Whether a file operation succeeded. -/
  | tried (succeeded : Bool)
  /-- A workspace was closed. -/
  | closed (intent : Intent)
  /-- The step failed. -/
  | failed (error : ProbeError)
deriving DecidableEq, Repr

namespace Bench

/-- The workspace that goes by an id and is not spent. -/
def live? (b : Bench) (id : String) : Option Workspace :=
  b.slots.findSome? fun slot =>
    if slot.id = id then slot.intent.map (⟨slot.path, ·⟩) else none

/-- Gives the live workspace of an id another intent, or `none` to spend it. -/
def mark (id : String) (intent : Option Intent) (slots : List Slot) : List Slot :=
  slots.map fun slot =>
    if slot.id = id ∧ slot.intent.isSome then { slot with intent := intent } else slot

/-- Changes files, inside a workspace if an id is given. Inside a spent one nothing can be done. -/
def change (b : Bench) (id : Option String) (c : Files.Change) : BenchAnswer × Bench :=
  match id with
  | none =>
    let (succeeded, s) := b.session.change c
    (.tried succeeded, { b with session := s })
  | some id =>
    match b.live? id with
    | none => (.tried false, b)
    | some w =>
      let (succeeded, s) := b.session.change (c.inside w.path)
      (.tried succeeded, { b with session := s })

/-- Takes a step. -/
def step (b : Bench) : BenchStep → BenchAnswer × Bench
  | .setup id parent =>
    match b.session.setupIn (parent.getD b.session.temp) with
    | (.error e, s) => (.failed e, { b with session := s })
    | (.ok w, s) => (.ok true, ⟨s, b.slots ++ [⟨id, w.path, some w.intent⟩]⟩)
  | .finish id =>
    match b.live? id with
    | none => (.ok false, b)
    | some w => (.ok true, { b with slots := mark id (some w.finish.intent) b.slots })
  | .close id =>
    match b.live? id with
    | none => (.ok false, b)
    | some w =>
      match b.session.close w with
      | (.error e, s) => (.failed e, ⟨s, mark id none b.slots⟩)
      | (.ok intent, s) => (.closed intent, ⟨s, mark id none b.slots⟩)
  | .drop id =>
    match b.live? id with
    | none => (.ok false, b)
    | some w => (.ok true, ⟨b.session.drop w, mark id none b.slots⟩)
  | .change id c => b.change id c

/-- Drops every workspace that is not spent. -/
def dropAll (b : Bench) : Session :=
  b.slots.foldl (fun s slot =>
    match slot.intent with
    | some intent => s.drop ⟨slot.path, intent⟩
    | none => s) b.session

end Bench

end RegistryProbe
