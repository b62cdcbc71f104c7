import RegistryProbe.Proofs.Scope.Guards

/-! # Nested scopes clean up

  Scopes may be nested in any way, and their works may do anything and end in any way. Every
  workspace that was made is removed when its scope is left, the innermost first, and the guards
  touch nothing else.

  - A place outside the workspaces is handed from one change of the works to the next as it is:
    `threads_ownChanges`.
  - A panic goes through all scopes around it, one step each, and nothing but the guards runs:
    `after_panic`.
  - `CleansUp` collects what is so of a whole course, and `scopes_clean_up` says that it always is.
-/

namespace RegistryProbe

open Files

namespace Config

variable {root : ApiRoot} {c : Config}

/-! ### Outside the workspaces -/

/-- The changes that the works themselves make during some steps, each with the files before and
    after. -/
def ownChanges (root : ApiRoot) : Nat → Config → List (Disk × Disk)
  | 0, _ => []
  | n + 1, c => (c.ownChange? root).toList ++ ownChanges root n (step root c)

/-- What stands at a place is what the last change left there, each change finds what the one before
    left, and the first finds what stood there in the beginning. -/
def Threads (q : Location) (start : Option Entry) : List (Disk × Disk) → Option Entry → Prop
  | [], final => final = start
  | (before, after) :: changes, final =>
    before.tree.look? q = start ∧ Threads q (after.tree.look? q) changes final

/-- A step that is no change of the work itself leaves the places outside the workspaces alone. -/
theorem look?_of_effect {c' : Config} (h : Effect root c c') (hown : c.ownChange? root = none)
    {q : Location} (hbefore : ∀ path ∈ c.paths, ¬ Disk.placeOf path <+: q)
    (hafter : ∀ path ∈ c'.paths, ¬ Disk.placeOf path <+: q) :
    c'.disk.tree.look? q = c.disk.tree.look? q := by
  cases h with
  | @entered f outer s c' path paths_eq _ _ made =>
    -- the new directory is one of the workspaces now
    have hne : q ≠ Disk.placeOf path := by
      intro h'
      subst h'
      exact hafter path (by rw [paths_eq]; exact List.mem_cons_self) (List.prefix_refl _)
    rw [made, if_neg hne]
    rfl
  | left _ removed => exact removed.elsewhere q (hbefore _ List.mem_cons_self)
  | own _ change_eq => cases hown.symm.trans change_eq
  | kept _ disk_eq =>
    rw [disk_eq]
    rfl
  | none => rfl

theorem threads_ownChanges (h : IsSited c) (n : Nat) (q : Location)
    (outside : ∀ m ≤ n, ∀ path ∈ (after root m c).paths, ¬ Disk.placeOf path <+: q) :
    Threads q (c.disk.tree.look? q) (ownChanges root n c)
      ((after root n c).disk.tree.look? q) := by
  induction n generalizing c with
  | zero => exact rfl
  | succ n ih =>
    have heffect := effect_step root h
    have hbefore := outside 0 (Nat.zero_le _)
    have hafter := outside 1 (by omega)
    -- the rest of the course starts from what this step leaves
    have hlater := ih (isSited_step h) fun m hm => outside (m + 1) (by omega)
    rw [ownChanges]
    cases hown : c.ownChange? root with
    | none =>
      rw [look?_of_effect heffect hown hbefore hafter] at hlater
      exact hlater
    | some change =>
      -- the change found the files as they are now, and the step left what the change made
      have hchange : change = (c.disk, (step root c).disk) := by
        cases heffect with
        | entered _ _ _ _ no_own => cases no_own.symm.trans hown
        | left => cases hown
        | own _ change_eq => exact Option.some.inj (hown.symm.trans change_eq)
        | kept _ _ no_own => cases no_own.symm.trans hown
        | none => cases hown
      rw [hchange]
      exact ⟨rfl, hlater⟩

/-! ### Panics -/

/-- The session after the guards of some frames have run. -/
def unwound (frames : List Frame) (s : Session) : Session :=
  frames.foldl (fun s f => s.drop f.workspace) s

theorem journal_unwound (frames : List Frame) (s : Session) :
    (unwound frames s).journal =
      s.journal ++ frames.map fun f => .workspaceLeft f.workspace.path := by
  induction frames generalizing s with
  | nil => exact (List.append_nil _).symm
  | cons f frames ih =>
    show (unwound frames (s.drop f.workspace)).journal = _
    rw [ih, List.map_cons]
    exact List.append_assoc _ [_] _

theorem diagnostics_unwound (frames : List Frame) (s : Session) :
    (unwound frames s).diagnostics = s.diagnostics := by
  induction frames generalizing s with
  | nil => rfl
  | cons f frames ih => exact ih (s.drop f.workspace)

/-- A panic goes through the scopes around it, the innermost first, one step each. -/
theorem after_panic (root : ApiRoot) (frames : List Frame) (s : Session) {m : Nat}
    (hm : m ≤ frames.length) :
    after root m (resume none frames s) =
      resume none (frames.drop m) (unwound (frames.take m) s) := by
  induction m generalizing frames s with
  | zero => rfl
  | succ m ih =>
    cases frames with
    | nil => exact absurd hm (by simp)
    | cons f frames =>
      have hm : m ≤ frames.length := by simpa using hm
      exact ih frames (s.drop f.workspace) hm

theorem after_ended (root : ApiRoot) (n : Nat) (result : Option Intent) (s : Session) :
    after root n (ended result s) = ended result s := by
  induction n with
  | zero => rfl
  | succ n ih => exact ih

/-- A course has one end. -/
theorem ended_unique {m n : Nat} {result result' : Option Intent} {s s' : Session}
    (h : after root m c = ended result s) (h' : after root n c = ended result' s') :
    result = result' ∧ s = s' := by
  -- from the earlier of the two ends the steps lead nowhere else
  have hle : ∀ {m n : Nat} {result result' : Option Intent} {s s' : Session}, m ≤ n →
      after root m c = ended result s → after root n c = ended result' s' →
      result = result' ∧ s = s' := by
    intro m n result result' s s' hmn h h'
    obtain ⟨k, rfl⟩ := Nat.exists_eq_add_of_le hmn
    rw [after_add, h, after_ended] at h'
    cases h'
    exact ⟨rfl, rfl⟩
  rcases Nat.le_total m n with hmn | hnm
  · exact hle hmn h h'
  · obtain ⟨hresult, hs⟩ := hle hnm h' h
    exact ⟨hresult.symm, hs.symm⟩

/-! ### The whole course -/

/-- The course of nested scopes, with the session in which the outermost is to be entered and what
    it comes to. -/
structure CleansUp (root : ApiRoot) (start : Config) (before : Session)
    (final : Option Intent × Session) : Prop where
  /-- The course ends, with all scopes left. -/
  ends : ∃ n, after root n start = ended final.1 final.2
  /-- A scope that is left is the innermost one. No directory stands at its path then, and nothing
      that is not below its path was touched. -/
  leaves : ∀ n ending f outer s, after root n start = leaving ending f outer s →
    (after root (n + 1) start).frames = outer ∧
      Disk.Removed f.workspace.path s.disk (after root (n + 1) start).disk
  /-- Other steps make a new directory for a workspace, are changes of the works, or keep the
      workspaces and the files. -/
  effects : ∀ n, Effect root (after root n start) (after root (n + 1) start)
  /-- Outside the workspaces that were entered, only the works change anything. -/
  outside : ∀ n q, (∀ m ≤ n, ∀ path ∈ (after root m start).paths, ¬ Disk.placeOf path <+: q) →
    Threads q (before.disk.tree.look? q) (ownChanges root n start)
      ((after root n start).disk.tree.look? q)
  /-- A panic goes through all scopes around it. Their guards run, the innermost first, and nothing
      else does. -/
  panics : ∀ n f outer s, after root n start = leaving .panicked f outer s →
    (∀ m < (f :: outer).length, ∃ g further,
      (f :: outer).drop m = g :: further ∧
        after root (n + m) start =
          leaving .panicked g further (unwound ((f :: outer).take m) s)) ∧
    final.1 = none ∧
    final.2.journal =
      s.journal ++ (f :: outer).map (fun g => .workspaceLeft g.workspace.path) ∧
    final.2.diagnostics = s.diagnostics

theorem look?_enter (program : String) (body : Body) (s : Session) (q : Location)
    (outside : ∀ path ∈ (enter program body [] s).paths, ¬ Disk.placeOf path <+: q) :
    (enter program body [] s).disk.tree.look? q = s.disk.tree.look? q := by
  rcases enter_cases program body [] s with ⟨e, n, henter⟩ | ⟨w, t, hsetup, henter⟩
  · rw [henter]
    rfl
  · rw [henter] at outside ⊢
    obtain ⟨-, -, hmade⟩ := Session.isSite_of_setup hsetup
    have hne : q ≠ Disk.placeOf w.path := by
      intro h
      subst h
      exact outside w.path List.mem_cons_self (List.prefix_refl _)
    have := hmade q
    rwa [if_neg hne] at this

/-- Scopes clean up after themselves, whatever their works do and however they are nested. -/
theorem scopes_clean_up (root : ApiRoot) (program : String) (body : Body) (s : Session) :
    CleansUp root (enter program body [] s) s (s.runScope program (body.run root)) := by
  have hsited := isSited_enter program body s
  have hends := exists_after_eq_ended root program body s
  have heffects : ∀ n, Effect root (after root n (enter program body [] s))
      (after root (n + 1) (enter program body [] s)) := by
    intro n
    rw [after_succ]
    exact effect_step root (isSited_after hsited n)
  refine ⟨hends, ?_, heffects, ?_, ?_⟩
  · intro n ending f outer t h
    have heffect := heffects n
    rw [h] at heffect
    -- of all effects only this one starts from a scope that is being left
    cases heffect with
    | left frames_eq removed => exact ⟨frames_eq, removed⟩
  · intro n q outside
    have hthreads := threads_ownChanges hsited n q outside
    rwa [look?_enter program body s q (outside 0 (Nat.zero_le n))] at hthreads
  · intro n f outer t h
    -- from the point of the panic every step leaves one scope
    have hpanic : ∀ m ≤ (f :: outer).length,
        after root (n + m) (enter program body [] s) =
          resume none ((f :: outer).drop m) (unwound ((f :: outer).take m) t) := by
      intro m hm
      rw [after_add, h]
      exact after_panic root (f :: outer) t hm
    refine ⟨?_, ?_⟩
    · intro m hm
      obtain ⟨g, further, hdrop⟩ := List.exists_cons_of_ne_nil
        (show (f :: outer).drop m ≠ [] by simpa using hm)
      refine ⟨g, further, hdrop, ?_⟩
      rw [hpanic m (Nat.le_of_lt hm), hdrop]
      rfl
    · have hlast := hpanic _ (Nat.le_refl _)
      rw [List.drop_length, List.take_length] at hlast
      -- the steps of the panic end the course, and it has one end
      obtain ⟨N, hN⟩ := hends
      obtain ⟨hresult, hsession⟩ := ended_unique hN hlast
      refine ⟨hresult, ?_, ?_⟩
      · rw [hsession]
        exact journal_unwound _ _
      · rw [hsession]
        exact diagnostics_unwound _ _

end Config

end RegistryProbe
