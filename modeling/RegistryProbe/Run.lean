import RegistryProbe.Probe

/-! # Runs of probes

  Probes of one API in a row, with changes to the files in between.
-/

namespace RegistryProbe

/-- A step of a run. -/
inductive RunStep where
  /-- Makes a probe. -/
  | probe (e : Errand) (net : Network)
  /-- Changes files. -/
  | change (c : Files.Change)

/-- The answer to a step of a run. -/
inductive RunAnswer where
  /-- A probe was made. -/
  | probed (result : Except ProbeError Outcome)
  /-- Whether a change succeeded. -/
  | tried (succeeded : Bool)

namespace Session

/-- Takes a step of a run. -/
def runStep (root : ApiRoot) (s : Session) : RunStep → RunAnswer × Session
  | .probe e net =>
    let (result, s) := s.perform net root e
    (.probed result, s)
  | .change c =>
    let (succeeded, s) := s.change c
    (.tried succeeded, s)

/-- The session after each step of a run, with the answer to the step. -/
def run (root : ApiRoot) (s : Session) : List RunStep → List (RunAnswer × Session)
  | [] => []
  | step :: steps =>
    let (answer, s) := s.runStep root step
    (answer, s) :: s.run root steps

/-- The session at the end of a run. -/
def afterRun (root : ApiRoot) (s : Session) (steps : List RunStep) : Session :=
  steps.foldl (fun s step => (s.runStep root step).2) s

end Session

end RegistryProbe
