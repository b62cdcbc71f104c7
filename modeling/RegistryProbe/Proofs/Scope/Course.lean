import RegistryProbe.Proofs.Workspace.Setup
import RegistryProbe.Scope

/-! # The course of a scope

  A scope sets up a workspace, does its work there, drops the workspace and settles how it ended.
  `settle` is what is left to do once the workspace is gone: `runScope_of_setup_ok`. A scope that
  gets no workspace has failed before it did anything: `runScope_of_setup_error`.
-/

namespace RegistryProbe

namespace Session

variable {s t : Session} {w : Workspace} {e : ProbeError}

-- Setting up makes many attempts, and none is to be evaluated.
attribute [local irreducible] setup

theorem report_fst (program : String) (e : ProbeError) (s : Session) :
    (s.report program e).1 = .failed := by
  show (Diagnostics.report program e s.diagnostics).1 = .failed
  unfold Diagnostics.report
  cases e.body? <;> rfl

theorem sent_report (program : String) (e : ProbeError) (s : Session) :
    (s.report program e).2.sent = s.sent := by
  simp [report, sent, note, Event.sent?]

theorem printed_report (program : String) (e : ProbeError) (s : Session) :
    (s.report program e).2.printed = s.printed := by
  simp [report, printed, note, Event.printed?]

theorem reports_report (program : String) (e : ProbeError) (s : Session) :
    (s.report program e).2.reports = s.reports ++ [e] := by
  simp [report, reports, note, Event.reported?]

/-- What is left of a scope once its workspace is gone: a failure is reported, a panic goes on. -/
def settle (program : String) (ending : Ending) (intent : Intent) (s : Session) :
    Option Intent × Session :=
  match ending with
  | .returned => (some intent, s)
  | .failed e => (some .failed, (s.report program e).2)
  | .panicked => (none, s)

theorem runScope_of_setup_error {program : String}
    {work : Workspace → Session → Ending × Intent × Session} (h : s.setup = (.error e, t)) :
    s.runScope program work = (some .failed, (t.report program e).2) := by
  have hfailed := report_fst program e t
  unfold runScope
  rw [h]
  dsimp only
  rw [hfailed]

theorem runScope_of_setup_ok {program : String}
    {work : Workspace → Session → Ending × Intent × Session} (h : s.setup = (.ok w, t)) :
    s.runScope program work =
      settle program (work w t).1 (work w t).2.1 ((work w t).2.2.drop w) := by
  unfold runScope
  rw [h]
  dsimp only
  obtain ⟨ending, intent, u⟩ := work w t
  cases ending with
  | returned => rfl
  | failed e =>
    have hfailed := report_fst program e (u.drop w)
    show (some ((u.drop w).report program e).1, _) = _
    rw [hfailed]
    rfl
  | panicked => rfl

end Session

end RegistryProbe
