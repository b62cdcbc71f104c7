import RegistryProbe.Proofs.Scope.Alike

/-! # In which order scopes tell their failures

  A scope that has failed tells its error when it ends, and nothing else in the course of nested
  scopes tells anything. So the reports stand in the order in which the scopes end.

  - `Tells` is how a session goes on with some reports: they are in the journal and, as far as there
    is room, on the diagnostic stream.
  - `Config.ends?` says whether a step ends a scope, and how. A scope that gets no workspace ends
    where it should have been entered.
  - One step tells the failure of the scope that it ends, if there is one: `tells_step`. A course
    tells all of them, in order: `tells_after`.
-/

namespace RegistryProbe

open Files

/-- The report that was made, with the program in whose name it was made. -/
def Event.report? : Event → Option (String × ProbeError)
  | reported program e => some (program, e)
  | _ => none

/-- What is to be reported of a scope that ended, given the program in whose name it reports. -/
def failure? : String × Ending → Option (String × ProbeError)
  | (program, .failed e) => some (program, e)
  | _ => none

namespace Session

variable {s t u : Session} {reports reports' : List (String × ProbeError)}

/-- A session goes on from `s` to `t` with some reports and no others. -/
structure Tells (s : Session) (reports : List (String × ProbeError)) (t : Session) : Prop where
  journal_eq : t.journal.filterMap Event.report? = s.journal.filterMap Event.report? ++ reports
  diagnostics_eq : t.diagnostics =
    reports.foldl (fun stream r => (Diagnostics.report r.1 r.2 stream).2) s.diagnostics

namespace Tells

theorem refl (s : Session) : Tells s [] s := ⟨(List.append_nil _).symm, rfl⟩

theorem trans (h : Tells s reports t) (h' : Tells t reports' u) :
    Tells s (reports ++ reports') u where
  journal_eq := by rw [h'.journal_eq, h.journal_eq, List.append_assoc]
  diagnostics_eq := by rw [h'.diagnostics_eq, h.diagnostics_eq, List.foldl_append]

/-- Entries other than reports tell nothing. -/
theorem note (h : Tells s reports t) {e : Event} (he : e.report? = none) :
    Tells s reports (t.note e) where
  journal_eq := by
    rw [filterMap_journal_note, he, h.journal_eq]
    exact List.append_nil _
  diagnostics_eq := h.diagnostics_eq

theorem onDisk (h : Tells s reports t) (d : Disk) : Tells s reports { t with disk := d } :=
  ⟨h.journal_eq, h.diagnostics_eq⟩

theorem of_proceeds {requests : List Request} {d : Disk} (h : Proceeds s requests d t) :
    Tells s [] t where
  journal_eq := by
    have hnone : ∀ e : Event, e.isProbes = true → e.report? = none := by
      intro e he
      cases e with
      | reported program e => cases he
      | _ => rfl
    rw [h.filterMap_journal_eq hnone, List.append_nil]
  diagnostics_eq := h.diagnostics_eq

theorem report (s : Session) (program : String) (e : ProbeError) :
    Tells s [(program, e)] (s.report program e).2 where
  journal_eq := by
    show (s.journal ++ [Event.reported program e]).filterMap Event.report? = _
    rw [List.filterMap_append]
    rfl
  diagnostics_eq := rfl

end Tells

/-! ### The parts of a course -/

-- Setting up makes many attempts, and none is to be evaluated.
attribute [local irreducible] setup

theorem tells_setup (s : Session) : Tells s [] s.setup.2 := by
  rcases hsetup : s.setup with ⟨made, t⟩
  cases made with
  | error e =>
    obtain ⟨n, rfl⟩ := setup_error hsetup
    exact ⟨(List.append_nil _).symm, rfl⟩
  | ok w =>
    obtain ⟨tag, d, n, -, -, rfl⟩ := setup_ok hsetup
    have hdrawn : Tells s [] { s with disk := d, drawn := n } := ⟨(List.append_nil _).symm, rfl⟩
    exact hdrawn.note rfl

theorem tells_perform (net : Network) (root : ApiRoot) (e : Errand) (s : Session) :
    Tells s [] (s.perform net root e).2 := by
  unfold perform probeText
  cases e.expression with
  | none => exact .of_proceeds (probe_spec net root e.endpoint .errorList e.output s).2
  | some expression =>
    dsimp only
    cases Expectation.read expression with
    | error fault => exact .refl s
    | ok expectation =>
      exact .of_proceeds (probe_spec net root e.endpoint expectation e.output s).2

/-- A step of a work itself tells nothing, not even one that fails. -/
theorem tells_act (root : ApiRoot) (action : Action) (w : Workspace) (s : Session) :
    Tells s [] (s.act root action w).2.2 := by
  cases action with
  | probe e net goesOn =>
    rw [act_probe]
    exact (tells_perform net root (e.inside w.path) s).note rfl
  | finish => exact (Tells.refl s).note rfl
  | fail e => exact (Tells.refl s).note rfl
  | leave => exact (Tells.refl s).note rfl
  | panic => exact .refl s
  | vanish => exact ((Tells.refl s).onDisk _).note rfl
  | change c => exact ((Tells.refl s).onDisk _).note rfl

theorem tells_settle (program : String) (ending : Ending) (intent : Intent) (s : Session) :
    Tells s (failure? (program, ending)).toList (settle program ending intent s).2 := by
  cases ending with
  | returned => exact .refl s
  | failed e => exact .report s program e
  | panicked => exact .refl s

end Session

namespace Config

open Session

variable {root : ApiRoot} {c : Config}

attribute [local irreducible] setup

/-- The end of a scope that gets no workspace: it fails before it is entered. -/
def refusal? (program : String) (s : Session) : Option (String × Ending) :=
  match s.setup.1 with
  | .error e => some (program, .failed e)
  | .ok _ => none

/-- The scope that ends with the next step, by the program in whose name it reports, and how it
    ends. -/
def ends? : Config → Option (String × Ending)
  | running f _ s =>
    match f.rest with
    | .scope program _ _ => refusal? program s
    | _ => none
  | leaving ending f _ _ => some (f.program, ending)
  | ended _ _ => none

/-- The ends of scopes during some steps, the earliest first. -/
def ends (root : ApiRoot) : Nat → Config → List (String × Ending)
  | 0, _ => []
  | n + 1, c => c.ends?.toList ++ ends root n (step root c)

theorem tells_resume {s : Session} {reports : List (String × ProbeError)} {t : Session}
    (h : Tells s reports t) (result : Option Intent) (outer : List Frame) :
    Tells s reports (resume result outer t).session := by
  cases outer with
  | nil => cases result <;> exact h
  | cons f outer =>
    cases result with
    | none => exact h
    | some intent => exact h.note rfl

theorem tells_enter (program : String) (inner : Body) (outer : List Frame) (s : Session) :
    Tells s ((refusal? program s).toList.filterMap failure?)
      (enter program inner outer s).session := by
  have hsetup := tells_setup s
  unfold enter refusal?
  generalize s.setup = made at hsetup ⊢
  obtain ⟨made, t⟩ := made
  cases made with
  | error e => exact tells_resume (hsetup.trans (.report t program e)) _ outer
  | ok w => exact hsetup

/-- A step tells the failure of the scope that it ends, if it ends one and this has failed. -/
theorem tells_step (root : ApiRoot) (c : Config) :
    Tells c.session (c.ends?.toList.filterMap failure?) (step root c).session := by
  cases c with
  | running f outer s =>
    obtain ⟨program, w, rest⟩ := f
    cases rest with
    | done => exact .refl s
    | act action rest =>
      have hact := tells_act root action w s
      rw [step_act]
      generalize s.act root action w = acted at hact ⊢
      obtain ⟨ending, w', t⟩ := acted
      cases ending with
      | none => exact hact
      | some ending => exact hact
    | scope inner_program inner rest =>
      rw [step_scope]
      exact tells_enter inner_program inner _ s
  | leaving ending f outer s =>
    -- the workspace is dropped without a word, and then the scope is settled
    have hdrop : Tells s [] (s.drop f.workspace) := ((Tells.refl s).onDisk _).note rfl
    have hsettle := hdrop.trans (tells_settle f.program ending f.workspace.intent _)
    have hends : (leaving ending f outer s).ends?.toList.filterMap failure? =
        [] ++ (failure? (f.program, ending)).toList := by
      show [(f.program, ending)].filterMap failure? = _
      cases hfailure : failure? (f.program, ending) <;> simp [hfailure]
    rw [hends]
    exact tells_resume hsettle _ outer
  | ended result s => exact .refl s

/-- Some steps tell the failures of the scopes that they end, in the order of the ends. -/
theorem tells_after (root : ApiRoot) (n : Nat) (c : Config) :
    Tells c.session ((ends root n c).filterMap failure?) (after root n c).session := by
  induction n generalizing c with
  | zero => exact .refl _
  | succ n ih =>
    have hstep := (tells_step root c).trans (ih (step root c))
    rw [← List.filterMap_append] at hstep
    exact hstep

end Config

end RegistryProbe
