import RegistryProbe.Proofs.Scope.Cleanup
import RegistryProbe.Proofs.Scope.Telling

/-! # What a scope comes to

  The intent of a scope comes from the scope's own work. It fails if the work fails or gets no
  workspace, is completed if the work returns and has marked its own workspace as done, and is
  aborted if the work returns without this.

  - `Body.taken` lists the steps that a work takes itself, without those of inner scopes.
  - These steps decide whether the work is marked as done, and whether it fails: `run_intent`,
    `run_failed_iff`.
  - `ScopeComesOut` collects what a scope comes to and what it tells, and `scopes_come_out` says
    that every scope comes out so.
-/

namespace RegistryProbe

open Files Session

variable {root : ApiRoot} {program : String} {body : Body} {s t : Session} {w : Workspace}
  {e : ProbeError}

-- Setting up makes many attempts, and none is to be evaluated.
attribute [local irreducible] Session.setup

/-! ### The steps of a work itself -/

/-- A step marks the workspace as done if it is there for that. -/
theorem act_intent (root : ApiRoot) (action : Action) (w : Workspace) (s : Session) :
    (action = .finish ∧ (s.act root action w).1 = none ∧
        (s.act root action w).2.1.intent = .completed) ∨
      action ≠ .finish ∧ (s.act root action w).2.1 = w := by
  cases action with
  | finish => exact .inl ⟨rfl, rfl, rfl⟩
  | probe e net goesOn =>
    refine .inr ⟨by simp, ?_⟩
    rw [act_probe]
  | fail e => exact .inr ⟨by simp, rfl⟩
  | leave => exact .inr ⟨by simp, rfl⟩
  | panic => exact .inr ⟨by simp, rfl⟩
  | vanish => exact .inr ⟨by simp, rfl⟩
  | change c => exact .inr ⟨by simp, rfl⟩

namespace Body

/-- The steps that a work takes itself, in order, each with how it ends the work, if it does. What
    is done in inner scopes is not among them. -/
def taken (root : ApiRoot) : Body → Workspace → Session → List (Action × Option Ending)
  | .done, _, _ => []
  | .act action rest, w, s =>
    match s.act root action w with
    | (none, w, s) => (action, none) :: rest.taken root w s
    | (some ending, _, _) => [(action, some ending)]
  | .scope program inner rest, w, s =>
    match s.runScope program (inner.run root) with
    | (some intent, s) => rest.taken root w (s.observe (.inner intent) w)
    | (none, _) => []

theorem taken_act (root : ApiRoot) (action : Action) (rest : Body) (w : Workspace) (s : Session) :
    (Body.act action rest).taken root w s =
      match s.act root action w with
      | (none, w, s) => (action, none) :: rest.taken root w s
      | (some ending, _, _) => [(action, some ending)] := rfl

theorem taken_scope (root : ApiRoot) (program : String) (inner rest : Body) (w : Workspace)
    (s : Session) :
    (Body.scope program inner rest).taken root w s =
      match s.runScope program (inner.run root) with
      | (some intent, s) => rest.taken root w (s.observe (.inner intent) w)
      | (none, _) => [] := rfl

/-- Whether a work marks its own workspace as done. -/
def Marks (root : ApiRoot) (body : Body) (w : Workspace) (s : Session) : Prop :=
  .finish ∈ (body.taken root w s).map Prod.fst

/-- A work leaves its workspace completed if it marks it as done, and else with the intent that it
    found. -/
theorem run_intent (root : ApiRoot) (body : Body) (w : Workspace) (s : Session) :
    (body.Marks root w s ∧ (body.run root w s).2.1 = .completed) ∨
      ¬ body.Marks root w s ∧ (body.run root w s).2.1 = w.intent := by
  induction body generalizing w s with
  | done => exact .inr ⟨by simp [Marks, taken], rfl⟩
  | act action rest ih =>
    have hact := act_intent root action w s
    unfold Marks
    rw [taken_act, run_act]
    generalize s.act root action w = acted at hact ⊢
    obtain ⟨ending, w', t⟩ := acted
    cases ending with
    | some ending =>
      -- a step that ends the work is no mark
      rcases hact with ⟨-, hnone, -⟩ | ⟨hne, rfl⟩
      · cases hnone
      · exact .inr ⟨by simpa using Ne.symm hne, rfl⟩
    | none =>
      rcases hact with ⟨rfl, -, hdone⟩ | ⟨hne, rfl⟩
      · -- marked here: whatever the rest does, the workspace stays completed
        refine .inl ⟨by simp, ?_⟩
        rcases ih w' t with ⟨-, hintent⟩ | ⟨-, hintent⟩
        · exact hintent
        · exact hintent.trans hdone
      · -- the step is no mark, so the rest decides
        have hmem : Action.finish ∈ ((action, none) :: rest.taken root w' t).map Prod.fst ↔
            rest.Marks root w' t := by
          simp [Marks, Ne.symm hne]
        rw [hmem]
        exact ih w' t
  | scope inner_program inner rest ih_inner ih =>
    unfold Marks
    rw [taken_scope, Config.run_scope]
    generalize s.runScope inner_program (inner.run root) = ran
    obtain ⟨result, t⟩ := ran
    cases result with
    | none => exact .inr ⟨by simp, rfl⟩
    | some intent => exact ih w (t.observe (.inner intent) w)

/-- A work fails exactly if one of its own steps fails. -/
theorem run_failed_iff (root : ApiRoot) (body : Body) (w : Workspace) (s : Session)
    (e : ProbeError) :
    (body.run root w s).1 = .failed e ↔
      ∃ action, (action, some (.failed e)) ∈ body.taken root w s := by
  induction body generalizing w s with
  | done =>
    have hreturned : (Body.done.run root w s).1 = .returned := rfl
    simp [taken, hreturned]
  | act action rest ih =>
    rw [taken_act, run_act]
    generalize s.act root action w = acted
    obtain ⟨ending, w', t⟩ := acted
    cases ending with
    | some ending => simp [eq_comm]
    | none => simpa using ih w' t
  | scope inner_program inner rest ih_inner ih =>
    rw [taken_scope, Config.run_scope]
    generalize s.runScope inner_program (inner.run root) = ran
    obtain ⟨result, t⟩ := ran
    cases result with
    | none => simp [Config.workAfter]
    | some intent => exact ih w (t.observe (.inner intent) w)

end Body

/-! ### The scope as a whole -/

/-- How a scope is left: the workspace is removed, and then the error of the work is told, if it
    has failed. -/
structure ScopeLeft (program : String) (w : Workspace) (ending : Ending) (worked after : Session) :
    Prop where
  removed : Disk.Removed w.path worked.disk after.disk
  journal_eq : after.journal = worked.journal ++ .workspaceLeft w.path ::
    (failure? (program, ending)).toList.map fun r => .reported r.1 r.2
  diagnostics_eq : after.diagnostics = (failure? (program, ending)).toList.foldl
    (fun stream r => (Diagnostics.report r.1 r.2 stream).2) worked.diagnostics

/-- What a scope comes to, and what it tells. -/
structure ScopeComesOut (root : ApiRoot) (program : String) (body : Body) (before : Session)
    (result : Option Intent) (after : Session) : Prop where
  /-- The scope fails if it gets no workspace or its work fails. -/
  failed_iff : result = some .failed ↔ (∃ e, before.setup.1 = .error e) ∨
    ∃ w e, before.setup.1 = .ok w ∧ (body.run root w before.setup.2).1 = .failed e
  /-- It is completed if its work returns and has marked its own workspace as done. -/
  completed_iff : result = some .completed ↔ ∃ w, before.setup.1 = .ok w ∧
    (body.run root w before.setup.2).1 = .returned ∧ body.Marks root w before.setup.2
  /-- It is aborted if its work returns without this. -/
  aborted_iff : result = some .aborted ↔ ∃ w, before.setup.1 = .ok w ∧
    (body.run root w before.setup.2).1 = .returned ∧ ¬ body.Marks root w before.setup.2
  /-- Only a panic of its work leaves it without an intent. -/
  panicked_iff : result = none ↔ ∃ w, before.setup.1 = .ok w ∧
    (body.run root w before.setup.2).1 = .panicked
  /-- A work fails by one of its own steps, never by an inner scope. -/
  work_failed_iff : ∀ w t e, (body.run root w t).1 = .failed e ↔
    ∃ action, (action, some (.failed e)) ∈ body.taken root w t
  /-- A scope that gets no workspace tells why, once, and does nothing else. -/
  refused : ∀ e, before.setup.1 = .error e → after.disk = before.disk ∧
    after.journal = before.journal ++ [.reported program e] ∧
    after.diagnostics = (Diagnostics.report program e before.diagnostics).2
  /-- Any other scope removes its workspace and then tells the error of its work, once, if the work
      has failed. Otherwise it tells nothing. -/
  left : ∀ w, before.setup.1 = .ok w →
    ScopeLeft program w (body.run root w before.setup.2).1 (body.run root w before.setup.2).2.2
      after
  /-- In the course of the scope and of all scopes inside, the failures are told in the order in
      which the scopes end. -/
  in_order : ∃ n,
    Config.after root n (Config.enter program body [] before) = .ended result after ∧
    Tells before (((Config.refusal? program before).toList ++
      Config.ends root n (Config.enter program body [] before)).filterMap failure?) after
  /-- Whatever an inner scope comes to, the work around it goes on as if it had come to anything
      else. -/
  inner_unheard : ∀ inner_program inner rest w (t : Session) intent u,
    t.runScope inner_program (Body.run root inner) = (some intent, u) → ∀ other,
    SameCourses ((Body.scope inner_program inner rest).run root w t)
      (rest.run root w (u.observe (.inner other) w))

/-! ### How it is settled -/

section
variable {ending : Ending} {intent : Intent}

theorem settle_failed_iff (h : intent ≠ .failed) :
    (settle program ending intent s).1 = some .failed ↔ ∃ e, ending = .failed e := by
  cases ending with
  | returned => simpa [settle] using h
  | failed e => simp [settle]
  | panicked => simp [settle]

theorem settle_eq_some_iff {i : Intent} (h : i ≠ .failed) :
    (settle program ending intent s).1 = some i ↔ ending = .returned ∧ intent = i := by
  cases ending with
  | returned => simp [settle]
  | failed e => simpa [settle] using h.symm
  | panicked => simp [settle]

theorem settle_eq_none_iff :
    (settle program ending intent s).1 = none ↔ ending = .panicked := by
  cases ending <;> simp [settle]

end

theorem scopeLeft_of_settle (hsetup : s.setup = (.ok w, t)) (program : String) (ending : Ending)
    (intent : Intent) (u : Session) :
    ScopeLeft program w ending u (settle program ending intent (u.drop w)).2 := by
  have hremoved := Disk.removed_of_isSite (isSite_of_setup hsetup).1 u.disk
  cases ending with
  | returned => exact ⟨hremoved, rfl, rfl⟩
  | failed e => exact ⟨hremoved, List.append_assoc _ [_] [_], rfl⟩
  | panicked => exact ⟨hremoved, rfl, rfl⟩

theorem exists_ended_and_tells (root : ApiRoot) (program : String) (body : Body) (s : Session) :
    ∃ n, Config.after root n (Config.enter program body [] s) =
        .ended (s.runScope program (body.run root)).1 (s.runScope program (body.run root)).2 ∧
      Tells s (((Config.refusal? program s).toList ++
        Config.ends root n (Config.enter program body [] s)).filterMap failure?)
        (s.runScope program (body.run root)).2 := by
  obtain ⟨n, hended⟩ := Config.exists_after_eq_ended root program body s
  -- the outermost scope may end before it is entered, all others end with a step
  have htold := (Config.tells_enter program body [] s).trans
    (Config.tells_after root n (Config.enter program body [] s))
  rw [hended, ← List.filterMap_append] at htold
  exact ⟨n, hended, htold⟩

/-- A scope comes to what its own work comes to, and tells a failure once its workspace is gone. -/
theorem scopes_come_out (root : ApiRoot) (program : String) (body : Body) (s : Session) :
    ScopeComesOut root program body s (s.runScope program (body.run root)).1
      (s.runScope program (body.run root)).2 := by
  have hinorder := exists_ended_and_tells root program body s
  have hunheard : ∀ inner_program inner rest w (t : Session) intent u,
      t.runScope inner_program (Body.run root inner) = (some intent, u) → ∀ other,
      SameCourses ((Body.scope inner_program inner rest).run root w t)
        (rest.run root w (u.observe (.inner other) w)) :=
    fun _ _ rest w _ _ _ h => Body.run_scope_unheard root h rest w
  rcases hsetup : s.setup with ⟨made, t⟩
  cases made with
  | error e =>
    rw [runScope_of_setup_error hsetup] at hinorder ⊢
    obtain ⟨n, rfl⟩ := setup_error hsetup
    refine ⟨by simp [hsetup], by simp [hsetup], by simp [hsetup], by simp [hsetup],
      body.run_failed_iff root, ?_, ?_, hinorder, hunheard⟩
    · rintro e' he'
      obtain rfl : e = e' := by simpa [hsetup] using he'
      exact ⟨rfl, rfl, rfl⟩
    · intro w hw
      simp [hsetup] at hw
  | ok w =>
    rw [runScope_of_setup_ok hsetup] at hinorder ⊢
    -- a workspace starts as aborted, so only a mark completes it
    have haborted : w.intent = .aborted := by
      obtain ⟨tag, d, n, hw, -, -⟩ := setup_ok hsetup
      rw [hw]
    have hintent := body.run_intent root w t
    rw [haborted] at hintent
    have hleft := scopeLeft_of_settle hsetup program (body.run root w t).1
      (body.run root w t).2.1 (body.run root w t).2.2
    generalize hworked : body.run root w t = worked at hintent hleft hinorder ⊢
    obtain ⟨ending, intent, u⟩ := worked
    have hcompleted : intent = .completed ↔ body.Marks root w t := by
      rcases hintent with ⟨hmarks, rfl⟩ | ⟨hmarks, rfl⟩ <;> simp [hmarks]
    have habort : intent = .aborted ↔ ¬ body.Marks root w t := by
      rcases hintent with ⟨hmarks, rfl⟩ | ⟨hmarks, rfl⟩ <;> simp [hmarks]
    have hne : intent ≠ .failed := by
      rcases hintent with ⟨-, rfl⟩ | ⟨-, rfl⟩ <;> simp
    refine ⟨?_, ?_, ?_, ?_, body.run_failed_iff root, ?_, ?_, hinorder, hunheard⟩
    · rw [settle_failed_iff hne]
      simp [hsetup, hworked]
    · rw [settle_eq_some_iff (by simp), hcompleted]
      simp [hsetup, hworked]
    · rw [settle_eq_some_iff (by simp), habort]
      simp [hsetup, hworked]
    · rw [settle_eq_none_iff]
      simp [hsetup, hworked]
    · intro e he
      simp [hsetup] at he
    · intro w' hw'
      obtain rfl : w = w' := by simpa [hsetup] using hw'
      simpa [hsetup, hworked] using hleft

end RegistryProbe
