import RegistryProbe.Proofs.Scope.Course

/-! # Scopes step by step

  Nested scopes, run one step at a time. The scopes that have been entered and not left form a
  stack of frames, the innermost first. A step takes the next step of the innermost work, enters a
  scope, or leaves the innermost one.

  The steps come to what `runScope` comes to: `exists_after_eq_ended`.
-/

namespace RegistryProbe

/-- A scope that has been entered and not left. -/
structure Frame where
  /-- The program in whose name the scope reports. -/
  program : String
  /-- Its workspace. -/
  workspace : Workspace
  /-- What is left to do in it. -/
  rest : Body

/-- A point in the course of nested scopes. -/
inductive Config where
  /-- The work of the innermost scope goes on. -/
  | running (f : Frame) (outer : List Frame) (s : Session)
  /-- The work of the innermost scope has ended, its workspace still stands. -/
  | leaving (ending : Ending) (f : Frame) (outer : List Frame) (s : Session)
  /-- All scopes have been left. -/
  | ended (result : Option Intent) (s : Session)

namespace Config

-- Setting up makes many attempts, and none is to be evaluated.
attribute [local irreducible] Session.setup

/-- The scopes that have been entered and not left, the innermost first. -/
def frames : Config → List Frame
  | running f outer _ => f :: outer
  | leaving _ f outer _ => f :: outer
  | ended _ _ => []

/-- The session. -/
def session : Config → Session
  | running _ _ s => s
  | leaving _ _ _ s => s
  | ended _ s => s

/-- Goes on around a scope that came to a result. A panic ends the work around it, too. -/
def resume (result : Option Intent) (outer : List Frame) (s : Session) : Config :=
  match result, outer with
  | result, [] => ended result s
  | some intent, f :: outer => running f outer (s.observe (.inner intent) f.workspace)
  | none, f :: outer => leaving .panicked f outer s

/-- Enters a scope, or goes on without it if it has no workspace. -/
def enter (program : String) (inner : Body) (outer : List Frame) (s : Session) : Config :=
  match s.setup with
  | (.error e, s) => resume (some .failed) outer (s.report program e).2
  | (.ok w, s) => running ⟨program, w, inner⟩ outer s

/-- A scope that is entered has a workspace of its own. A scope that cannot be entered has failed
    before it does anything, and has told so. -/
theorem enter_cases (program : String) (inner : Body) (outer : List Frame) (s : Session) :
    (∃ e n, enter program inner outer s =
        resume (some .failed) outer (Session.report program e { s with drawn := n }).2) ∨
      ∃ w t, s.setup = (.ok w, t) ∧
        enter program inner outer s = running ⟨program, w, inner⟩ outer t := by
  unfold enter
  rcases hsetup : s.setup with ⟨made, t⟩
  rcases made with e | w
  · obtain ⟨n, rfl⟩ := Session.setup_error hsetup
    exact .inl ⟨e, n, rfl⟩
  · exact .inr ⟨w, t, rfl, rfl⟩

/-- Takes a step. -/
def step (root : ApiRoot) : Config → Config
  | running f outer s =>
    match f.rest with
    | .done => leaving .returned f outer s
    | .act action rest =>
      match s.act root action f.workspace with
      | (none, w, s) => running { f with workspace := w, rest := rest } outer s
      | (some ending, w, s) => leaving ending { f with workspace := w, rest := rest } outer s
    | .scope program inner rest => enter program inner ({ f with rest := rest } :: outer) s
  | leaving ending f outer s =>
    let left := Session.settle f.program ending f.workspace.intent (s.drop f.workspace)
    resume left.1 outer left.2
  | ended result s => ended result s

theorem step_act (root : ApiRoot) (program : String) (w : Workspace) (action : Action)
    (rest : Body) (outer : List Frame) (s : Session) :
    step root (running ⟨program, w, .act action rest⟩ outer s) =
      match s.act root action w with
      | (none, w, s) => running ⟨program, w, rest⟩ outer s
      | (some ending, w, s) => leaving ending ⟨program, w, rest⟩ outer s := rfl

theorem step_scope (root : ApiRoot) (program inner_program : String) (w : Workspace)
    (inner rest : Body) (outer : List Frame) (s : Session) :
    step root (running ⟨program, w, .scope inner_program inner rest⟩ outer s) =
      enter inner_program inner (⟨program, w, rest⟩ :: outer) s := rfl

/-- The point after some steps. -/
def after (root : ApiRoot) : Nat → Config → Config
  | 0, c => c
  | n + 1, c => after root n (step root c)

theorem after_add (root : ApiRoot) (m n : Nat) (c : Config) :
    after root (m + n) c = after root n (after root m c) := by
  induction m generalizing c with
  | zero => rw [Nat.zero_add, after]
  | succ m ih => rw [Nat.succ_add, after, after, ih]

theorem after_succ (root : ApiRoot) (n : Nat) (c : Config) :
    after root (n + 1) c = step root (after root n c) :=
  after_add root n 1 c

/-! ### The steps come to the same -/

/-- Some steps lead from one point to another. -/
def Leads (root : ApiRoot) (c c' : Config) : Prop := ∃ n, after root n c = c'

variable {root : ApiRoot} {c c' c'' : Config}

theorem Leads.refl (c : Config) : Leads root c c := ⟨0, rfl⟩

theorem Leads.trans (h : Leads root c c') (h' : Leads root c' c'') : Leads root c c'' := by
  obtain ⟨m, rfl⟩ := h
  obtain ⟨n, rfl⟩ := h'
  exact ⟨m + n, after_add root m n c⟩

theorem Leads.step (h : Leads root (step root c) c') : Leads root c c' := by
  obtain ⟨n, rfl⟩ := h
  exact ⟨n + 1, rfl⟩

/-- A scope is left as soon as its work has ended. -/
theorem leads_of_work {program : String} {inner : Body} {outer : List Frame} {s : Session}
    (hwork : ∀ w t, ∃ rest, Leads root (running ⟨program, w, inner⟩ outer t)
      (leaving (inner.run root w t).1 ⟨program, { w with intent := (inner.run root w t).2.1 }, rest⟩
        outer (inner.run root w t).2.2)) :
    Leads root (enter program inner outer s)
      (resume (s.runScope program (inner.run root)).1 outer
        (s.runScope program (inner.run root)).2) := by
  unfold enter
  cases hsetup : s.setup with
  | mk made t =>
    cases made with
    | error e =>
      -- no workspace, no work: both have resumed with the failure
      rw [Session.runScope_of_setup_error hsetup]
      exact .refl _
    | ok w =>
      rw [Session.runScope_of_setup_ok hsetup]
      obtain ⟨rest, hleads⟩ := hwork w t
      exact hleads.trans (.step (.refl _))

/-- A step of a work stays in its workspace. -/
theorem act_path (root : ApiRoot) (action : Action) (w : Workspace) (s : Session) :
    (s.act root action w).2.1.path = w.path := by
  cases action with
  | probe e net goesOn =>
    unfold Session.act
    dsimp only
    split <;> rfl
  | finish => rfl
  | fail e => rfl
  | leave => rfl
  | panic => rfl
  | vanish => rfl
  | change c => rfl

theorem eq_with_intent {w w' : Workspace} (h : w'.path = w.path) (intent : Intent) :
    { w' with intent := intent } = { w with intent := intent } := by
  rw [h]

/-- How a work goes on after an inner scope. -/
def workAfter (root : ApiRoot) (rest : Body) (w : Workspace) :
    Option Intent × Session → Ending × Intent × Session
  | (some intent, s) => rest.run root w (s.observe (.inner intent) w)
  | (none, s) => (.panicked, w.intent, s)

theorem run_scope (root : ApiRoot) (program : String) (inner rest : Body) (w : Workspace)
    (s : Session) :
    (Body.scope program inner rest).run root w s =
      workAfter root rest w (s.runScope program (inner.run root)) := rfl

/-- The work of the innermost scope runs to its end. -/
theorem exists_leads_leaving (root : ApiRoot) (body : Body) (program : String) (w : Workspace)
    (outer : List Frame) (s : Session) :
    ∃ rest, Leads root (running ⟨program, w, body⟩ outer s)
      (leaving (body.run root w s).1 ⟨program, { w with intent := (body.run root w s).2.1 }, rest⟩
        outer (body.run root w s).2.2) := by
  -- induction on the work; what comes around it and the session it starts in vary
  induction body generalizing program w outer s with
  | done => exact ⟨.done, .step (.refl _)⟩
  | act action rest ih =>
    have hpath := act_path root action w s
    have hrun : (Body.act action rest).run root w s =
        match s.act root action w with
        | (none, w, s) => rest.run root w s
        | (some ending, w, s) => (ending, w.intent, s) := rfl
    have hstep := step_act root program w action rest outer s
    rw [hrun]
    generalize s.act root action w = acted at hpath hstep ⊢
    obtain ⟨ending, w', t⟩ := acted
    cases ending with
    | none =>
      obtain ⟨last, hrest⟩ := ih program w' outer t
      rw [eq_with_intent hpath] at hrest
      exact ⟨last, .step (hstep ▸ hrest)⟩
    | some ending =>
      -- the action ended the work, and what was left of it stays undone
      refine ⟨rest, .step ?_⟩
      rw [hstep, ← eq_with_intent hpath]
      exact .refl _
  | scope inner_program inner rest ih_inner ih =>
    -- the inner scope runs to its result, with this one around it
    have hinner : Leads root
        (running ⟨program, w, .scope inner_program inner rest⟩ outer s)
        (resume (s.runScope inner_program (inner.run root)).1 (⟨program, w, rest⟩ :: outer)
          (s.runScope inner_program (inner.run root)).2) := by
      apply Leads.step
      rw [step_scope]
      exact leads_of_work fun w t => ih_inner inner_program w _ t
    rw [run_scope]
    generalize s.runScope inner_program (inner.run root) = ran at hinner ⊢
    obtain ⟨result, t⟩ := ran
    cases result with
    | none =>
      -- a panic inside: `resume` has left this work already
      exact ⟨rest, hinner⟩
    | some intent =>
      -- the scope ended, and the work goes on behind it
      obtain ⟨last, hrest⟩ := ih program w outer (t.observe (.inner intent) w)
      exact ⟨last, hinner.trans hrest⟩

/-- Scopes run step by step come to an end, with the result and the session of `runScope`. -/
theorem exists_after_eq_ended (root : ApiRoot) (program : String) (body : Body) (s : Session) :
    ∃ n, after root n (enter program body [] s) =
      ended (s.runScope program (body.run root)).1 (s.runScope program (body.run root)).2 := by
  have h : Leads root (enter program body [] s)
      (resume (s.runScope program (body.run root)).1 []
        (s.runScope program (body.run root)).2) :=
    leads_of_work fun w t => exists_leads_leaving root body program w [] t
  exact h

end Config

end RegistryProbe
