import RegistryProbe.Proofs.Probe.Answer
import RegistryProbe.Proofs.Scope.Machine

/-! # Works do not hear what inner scopes come to

  Two sessions are alike if they differ at most in what has been observed, printed and told. A work
  depends on the files, on the tags and on the requests sent before, and on nothing else of a
  session, so from sessions that are alike it runs alike: `run_alike`.

  What an inner scope came to is observed and nothing more. So the work around it goes on as if the
  inner scope had come to anything else: `run_scope_unheard`.
-/

namespace RegistryProbe

open Files

namespace Session

variable {s t u : Session} {e e' : Event}

/-- Two sessions differ at most in what has been observed, printed and told. -/
structure Alike (s t : Session) : Prop where
  disk_eq : t.disk = s.disk
  temp_eq : t.temp = s.temp
  tags_eq : t.tags = s.tags
  drawn_eq : t.drawn = s.drawn
  sent_eq : t.sent = s.sent

namespace Alike

theorem refl (s : Session) : Alike s s := ⟨rfl, rfl, rfl, rfl, rfl⟩

/-- Entries leave sessions alike, unless they tell of different requests. -/
theorem note (h : Alike s t) (hsent : e'.sent? = e.sent?) : Alike (s.note e) (t.note e') where
  disk_eq := h.disk_eq
  temp_eq := h.temp_eq
  tags_eq := h.tags_eq
  drawn_eq := h.drawn_eq
  sent_eq := by rw [sent_note, sent_note, h.sent_eq, hsent]

theorem onDisk (h : Alike s t) {d d' : Disk} (hd : d' = d) :
    Alike { s with disk := d } { t with disk := d' } where
  disk_eq := hd
  temp_eq := h.temp_eq
  tags_eq := h.tags_eq
  drawn_eq := h.drawn_eq
  sent_eq := h.sent_eq

theorem report (h : Alike s t) (program : String) (e : ProbeError) :
    Alike (s.report program e).2 (t.report program e).2 where
  disk_eq := h.disk_eq
  temp_eq := h.temp_eq
  tags_eq := h.tags_eq
  drawn_eq := h.drawn_eq
  sent_eq := by rw [sent_report, sent_report, h.sent_eq]

theorem drop (h : Alike s t) (w : Workspace) : Alike (s.drop w) (t.drop w) :=
  (h.onDisk (by rw [h.disk_eq])).note rfl

end Alike

/-- Two runs of an operation, from sessions that are alike, give the same and leave sessions that
    are alike. -/
def SameRuns {α : Type} (a b : α × Session) : Prop := b.1 = a.1 ∧ Alike a.2 b.2

/-! ### Setting up -/

section
-- An attempt is looked at as a whole. Opening it would evaluate the name of the directory.
attribute [local irreducible] Disk.makeDirectory

theorem makeUnder_alike (h : Alike s t) (base : String) (attempts : Nat) :
    SameRuns (s.makeUnder base attempts) (t.makeUnder base attempts) := by
  induction attempts generalizing s t with
  | zero => exact ⟨rfl, h⟩
  | succ attempts ih =>
    -- both draw the same tag, and try the same name on the same disk
    have htag : t.draw.1 = s.draw.1 := by
      show t.tags t.drawn = s.tags s.drawn
      rw [h.tags_eq, h.drawn_eq]
    have hdrawn : Alike s.draw.2 t.draw.2 :=
      ⟨h.disk_eq, h.temp_eq, h.tags_eq, congrArg (· + 1) h.drawn_eq, h.sent_eq⟩
    rw [makeUnder_succ, makeUnder_succ, htag, h.disk_eq]
    split
    next => exact ⟨rfl, hdrawn.onDisk rfl⟩
    next => exact ih hdrawn
    next => exact ⟨rfl, hdrawn⟩

theorem setup_alike (h : Alike s t) : SameRuns s.setup t.setup := by
  have hbase : t.absolute t.temp = s.absolute s.temp := by
    simp [absolute, h.disk_eq, h.temp_eq]
  have hmake := makeUnder_alike h (s.absolute s.temp) workspaceAttempts
  unfold setup setupIn
  rw [hbase, h.temp_eq]
  generalize s.makeUnder (s.absolute s.temp) workspaceAttempts = made at hmake ⊢
  generalize t.makeUnder (s.absolute s.temp) workspaceAttempts = made' at hmake ⊢
  obtain ⟨result, s'⟩ := made
  obtain ⟨result', t'⟩ := made'
  obtain ⟨rfl, hmade⟩ := hmake
  cases result' with
  | error fault => exact ⟨rfl, hmade⟩
  | ok path => exact ⟨rfl, hmade.note rfl⟩

end

/-! ### Probes -/

theorem probe_alike (h : Alike s t) (net : Network) (root : ApiRoot) (endpoint : String)
    (expectation : Expectation) (output : String) :
    SameRuns (s.probe net root endpoint expectation output)
      (t.probe net root endpoint expectation output) := by
  obtain ⟨hs, hs'⟩ := probe_spec net root endpoint expectation output s
  obtain ⟨ht, ht'⟩ := probe_spec net root endpoint expectation output t
  -- both probes come to the same answer, which has no other arguments
  rw [h.sent_eq, h.disk_eq] at ht ht'
  refine ⟨ht.trans hs.symm, ht'.disk_eq.trans hs'.disk_eq.symm, ?_, ?_, ?_, ?_⟩
  · rw [ht'.temp_eq, hs'.temp_eq, h.temp_eq]
  · rw [ht'.tags_eq, hs'.tags_eq, h.tags_eq]
  · rw [ht'.drawn_eq, hs'.drawn_eq, h.drawn_eq]
  · rw [ht'.sent_eq, hs'.sent_eq, h.sent_eq]

theorem perform_alike (h : Alike s t) (net : Network) (root : ApiRoot) (e : Errand) :
    SameRuns (s.perform net root e) (t.perform net root e) := by
  unfold perform probeText
  cases e.expression with
  | none => exact probe_alike h net root e.endpoint .errorList e.output
  | some expression =>
    dsimp only
    cases Expectation.read expression with
    | error fault => exact ⟨rfl, h⟩
    | ok expectation => exact probe_alike h net root e.endpoint expectation e.output

/-! ### Steps and scopes -/

-- Setting up makes many attempts, and none is to be evaluated.
attribute [local irreducible] setup

/-- A probe is observed, and if it fails its error ends the work, unless the work is to go on. -/
theorem act_probe (root : ApiRoot) (e : Errand) (net : Network) (goesOn : Bool) (w : Workspace)
    (s : Session) :
    s.act root (.probe e net goesOn) w =
      (match (s.perform net root (e.inside w.path)).1 with
        | .ok _ => none
        | .error e => if goesOn then none else some (.failed e),
        w, (s.perform net root (e.inside w.path)).2.observe
          (.probed (s.perform net root (e.inside w.path)).1) w) := by
  unfold act
  dsimp only
  generalize s.perform net root (e.inside w.path) = performed
  obtain ⟨result, t⟩ := performed
  cases result <;> rfl

/-- Two runs of a step or a work end in the same way, with the same second outcome, and leave
    sessions that are alike. -/
def SameCourses {α β : Type} (a b : α × β × Session) : Prop :=
  b.1 = a.1 ∧ SameRuns a.2 b.2

theorem act_alike (h : Alike s t) (root : ApiRoot) (action : Action) (w : Workspace) :
    SameCourses (s.act root action w) (t.act root action w) := by
  -- what a step observes is entered into the journal, where no work looks
  have observed (answer answer' : StepAnswer) (w : Workspace) {s t : Session} (h : Alike s t) :
      Alike (s.observe answer w) (t.observe answer' w) := h.note rfl
  cases action with
  | probe e net goesOn =>
    obtain ⟨hresult, hafter⟩ := perform_alike h net root (e.inside w.path)
    rw [act_probe, act_probe, hresult]
    exact ⟨rfl, rfl, observed _ _ _ hafter⟩
  | finish => exact ⟨rfl, rfl, observed _ _ _ h⟩
  | fail e => exact ⟨rfl, rfl, observed _ _ _ h⟩
  | leave => exact ⟨rfl, rfl, observed _ _ _ h⟩
  | panic => exact ⟨rfl, rfl, h⟩
  | vanish => exact ⟨rfl, rfl, observed _ _ _ (h.onDisk (by rw [h.disk_eq]))⟩
  | change c => exact ⟨rfl, rfl, observed _ _ _ (h.onDisk (by rw [h.disk_eq]))⟩

theorem settle_alike (h : Alike s t) (program : String) (ending : Ending) (intent : Intent) :
    SameRuns (settle program ending intent s) (settle program ending intent t) := by
  cases ending with
  | returned => exact ⟨rfl, h⟩
  | failed e => exact ⟨rfl, h.report program e⟩
  | panicked => exact ⟨rfl, h⟩

theorem runScope_alike (h : Alike s t) (program : String)
    {work : Workspace → Session → Ending × Intent × Session}
    (hwork : ∀ w {s t : Session}, Alike s t → SameCourses (work w s) (work w t)) :
    SameRuns (s.runScope program work) (t.runScope program work) := by
  obtain ⟨hmade, hafter⟩ := setup_alike h
  have heq : s.setup = (s.setup.1, s.setup.2) := rfl
  have heq' : t.setup = (s.setup.1, t.setup.2) := Prod.ext hmade rfl
  cases hsetup : s.setup.1 with
  | error e =>
    rw [hsetup] at heq heq'
    rw [runScope_of_setup_error heq, runScope_of_setup_error heq']
    exact ⟨rfl, hafter.report program e⟩
  | ok w =>
    rw [hsetup] at heq heq'
    rw [runScope_of_setup_ok heq, runScope_of_setup_ok heq']
    obtain ⟨hending, hintent, hworked⟩ := hwork w hafter
    rw [hending, hintent]
    exact settle_alike (hworked.drop w) program _ _

end Session

namespace Body

open Session

variable {s t u : Session} {intent : Intent}

attribute [local irreducible] setup

theorem run_act (root : ApiRoot) (action : Action) (rest : Body) (w : Workspace) (s : Session) :
    (Body.act action rest).run root w s =
      match s.act root action w with
      | (none, w, s) => rest.run root w s
      | (some ending, w, s) => (ending, w.intent, s) := rfl

theorem run_alike (root : ApiRoot) (body : Body) (w : Workspace) (h : Alike s t) :
    SameCourses (body.run root w s) (body.run root w t) := by
  induction body generalizing w s t with
  | done => exact ⟨rfl, rfl, h⟩
  | act action rest ih =>
    obtain ⟨hending, hacted, hafter⟩ := act_alike h root action w
    rw [run_act, run_act]
    generalize s.act root action w = acted at hending hacted hafter ⊢
    generalize t.act root action w = acted' at hending hacted hafter ⊢
    obtain ⟨ending, w', s'⟩ := acted
    obtain ⟨ending', w'', t'⟩ := acted'
    obtain rfl : ending' = ending := hending
    obtain rfl : w'' = w' := hacted
    cases ending' with
    | none => exact ih w'' hafter
    | some ending => exact ⟨rfl, rfl, hafter⟩
  | scope program inner rest ih_inner ih =>
    obtain ⟨hresult, hafter⟩ :=
      runScope_alike h program fun w {s t} (h : Alike s t) => ih_inner w h
    rw [Config.run_scope, Config.run_scope]
    generalize s.runScope program (inner.run root) = ran at hresult hafter ⊢
    generalize t.runScope program (inner.run root) = ran' at hresult hafter ⊢
    obtain ⟨result, s'⟩ := ran
    obtain ⟨result', t'⟩ := ran'
    obtain rfl : result' = result := hresult
    cases result' with
    | none => exact ⟨rfl, rfl, hafter⟩
    | some intent => exact ih w (hafter.note rfl)

/-- A work with an inner scope in front goes on as if that scope had come to any other intent. -/
theorem run_scope_unheard (root : ApiRoot) {program : String} {inner : Body}
    (h : s.runScope program (inner.run root) = (some intent, u)) (rest : Body) (w : Workspace)
    (other : Intent) :
    SameCourses ((Body.scope program inner rest).run root w s)
      (rest.run root w (u.observe (.inner other) w)) := by
  rw [Config.run_scope, h]
  exact run_alike root rest w ((Alike.refl u).note rfl)

end Body

end RegistryProbe
