import RegistryProbe.Proofs.Files.Removing
import RegistryProbe.Proofs.Scope.Machine

/-! # What the guards of workspaces do

  A step of nested scopes touches the workspaces and the files in one of few ways, and `Effect`
  lists them: a workspace is made, the innermost one is removed, the work makes a change of its own,
  or all stays as it is.

  The guard of a workspace removes what stands at its path. That this is its own directory, with all
  below it and nothing else, holds because the paths of workspaces are sites. They are when they are
  made and stay so whatever a work does to the disk: `isSited_step`.
-/

namespace RegistryProbe

open Files

namespace Config

variable {root : ApiRoot} {c : Config}

/-- The files. -/
def disk (c : Config) : Disk := c.session.disk

/-- The paths of the workspaces that are in use, the innermost first. -/
def paths (c : Config) : List String := c.frames.map fun f => f.workspace.path

/-- The files before and after a change that the work itself makes, if a step is one. -/
def ownChange? (root : ApiRoot) : Config → Option (Disk × Disk)
  | running f _ s =>
    match f.rest with
    | .act action _ => some (s.disk, (s.act root action f.workspace).2.2.disk)
    | _ => none
  | _ => none

/-- All workspaces in use are at sites. -/
def IsSited (c : Config) : Prop := ∀ path ∈ c.paths, Disk.IsSite path

/-- What a step does to the workspaces and to the files. -/
inductive Effect (root : ApiRoot) : Config → Config → Prop where
  /-- A scope is entered: a directory is made where nothing stood. -/
  | entered {f : Frame} {outer : List Frame} {s : Session} {c' : Config} {path : String}
      (paths_eq : c'.paths = path :: (running f outer s).paths) (site : Disk.IsSite path)
      (new : s.disk.tree.look? (Disk.placeOf path) = none)
      (made : ∀ q, c'.disk.tree.look? q =
        if q = Disk.placeOf path then some .directory else s.disk.tree.look? q)
      (no_own : (running f outer s).ownChange? root = none) :
      Effect root (running f outer s) c'
  /-- The innermost scope is left: what stands at its path is removed. -/
  | left {ending : Ending} {f : Frame} {outer : List Frame} {s : Session} {c' : Config}
      (frames_eq : c'.frames = outer) (removed : Disk.Removed f.workspace.path s.disk c'.disk) :
      Effect root (leaving ending f outer s) c'
  /-- The work makes a change of its own, and stays in its workspace. -/
  | own {f : Frame} {outer : List Frame} {s : Session} {c' : Config}
      (paths_eq : c'.paths = (running f outer s).paths)
      (change_eq : (running f outer s).ownChange? root = some (s.disk, c'.disk)) :
      Effect root (running f outer s) c'
  /-- The work goes on or ends, and the workspaces and the files stay as they are. -/
  | kept {f : Frame} {outer : List Frame} {s : Session} {c' : Config}
      (paths_eq : c'.paths = (running f outer s).paths) (disk_eq : c'.disk = s.disk)
      (no_own : (running f outer s).ownChange? root = none) :
      Effect root (running f outer s) c'
  /-- After the end nothing happens. -/
  | none {result : Option Intent} {s : Session} : Effect root (ended result s) (ended result s)

/-! ### Single steps -/

@[simp] theorem frames_resume (result : Option Intent) (outer : List Frame) (s : Session) :
    (resume result outer s).frames = outer := by
  cases outer with
  | nil => cases result <;> rfl
  | cons f outer => cases result <;> rfl

theorem paths_resume (result : Option Intent) (outer : List Frame) (s : Session) :
    (resume result outer s).paths = outer.map fun f => f.workspace.path := by
  rw [paths, frames_resume]

@[simp] theorem disk_resume (result : Option Intent) (outer : List Frame) (s : Session) :
    (resume result outer s).disk = s.disk := by
  cases outer with
  | nil => cases result <;> rfl
  | cons f outer => cases result <;> rfl

theorem disk_settle (program : String) (ending : Ending) (intent : Intent) (s : Session) :
    (Session.settle program ending intent s).2.disk = s.disk := by
  cases ending <;> rfl

/-- The step that leaves a scope removes its workspace and no other. -/
theorem effect_leaving (ending : Ending) (f : Frame) (outer : List Frame) (s : Session)
    (hsite : Disk.IsSite f.workspace.path) :
    Effect root (leaving ending f outer s) (step root (leaving ending f outer s)) := by
  apply Effect.left
  · exact frames_resume _ outer _
  · have hdisk : (step root (leaving ending f outer s)).disk =
        (s.disk.removeDirectory f.workspace.path).1 :=
      (disk_resume _ outer _).trans (disk_settle _ _ _ _)
    rw [hdisk]
    exact Disk.removed_of_isSite hsite s.disk

theorem effect_act (program : String) (w : Workspace) (action : Action) (rest : Body)
    (outer : List Frame) (s : Session) :
    Effect root (running ⟨program, w, .act action rest⟩ outer s)
      (step root (running ⟨program, w, .act action rest⟩ outer s)) := by
  have hpath := act_path root action w s
  have hown : (running ⟨program, w, .act action rest⟩ outer s).ownChange? root =
      some (s.disk, (s.act root action w).2.2.disk) := rfl
  rw [step_act]
  generalize s.act root action w = acted at hpath hown ⊢
  obtain ⟨ending, w', t⟩ := acted
  -- an action may mark the workspace as done, but it stays at its path
  have hpaths : w'.path :: outer.map (fun f => f.workspace.path) =
      w.path :: outer.map (fun f => f.workspace.path) := congrArg (· :: _) hpath
  cases ending with
  | none => exact .own hpaths hown
  | some ending => exact .own hpaths hown

theorem effect_scope (program inner_program : String) (w : Workspace) (inner rest : Body)
    (outer : List Frame) (s : Session) :
    Effect root (running ⟨program, w, .scope inner_program inner rest⟩ outer s)
      (step root (running ⟨program, w, .scope inner_program inner rest⟩ outer s)) := by
  rw [step_scope]
  rcases enter_cases inner_program inner (⟨program, w, rest⟩ :: outer) s with
    ⟨e, n, henter⟩ | ⟨w', t, hsetup, henter⟩
  · rw [henter]
    exact .kept (paths_resume _ _ _) (disk_resume _ _ _) rfl
  · rw [henter]
    obtain ⟨hsite, hnew, hmade⟩ := Session.isSite_of_setup hsetup
    exact .entered rfl hsite hnew hmade rfl

/-- Every step has one of these effects, as long as the workspaces are at sites. -/
theorem effect_step (root : ApiRoot) {c : Config} (h : IsSited c) :
    Effect root c (step root c) := by
  cases c with
  | running f outer s =>
    obtain ⟨program, w, rest⟩ := f
    cases rest with
    | done => exact .kept rfl rfl rfl
    | act action rest => exact effect_act program w action rest outer s
    | scope inner_program inner rest =>
      exact effect_scope program inner_program w inner rest outer s
  | leaving ending f outer s =>
    exact effect_leaving ending f outer s (h f.workspace.path List.mem_cons_self)
  | ended result s => exact .none

/-! ### Sites stay sites -/

theorem isSited_of_effect {c' : Config} (h : IsSited c) (heffect : Effect root c c') :
    IsSited c' := by
  intro path hpath
  -- only the workspace that is entered is new, and it comes with its site
  cases heffect with
  | entered paths_eq site =>
    rw [paths_eq] at hpath
    rcases List.mem_cons.1 hpath with rfl | hpath
    · exact site
    · exact h path hpath
  | left frames_eq =>
    apply h path
    rw [paths, frames_eq] at hpath
    exact List.mem_cons_of_mem _ hpath
  | own paths_eq => exact h path (paths_eq ▸ hpath)
  | kept paths_eq => exact h path (paths_eq ▸ hpath)
  | none => exact h path hpath

theorem isSited_step (h : IsSited c) : IsSited (step root c) :=
  isSited_of_effect h (effect_step root h)

theorem isSited_after (h : IsSited c) (n : Nat) : IsSited (after root n c) := by
  induction n generalizing c with
  | zero => exact h
  | succ n ih => exact ih (isSited_step h)

theorem isSited_enter (program : String) (body : Body) (s : Session) :
    IsSited (enter program body [] s) := by
  intro path hpath
  rcases enter_cases program body [] s with ⟨e, n, henter⟩ | ⟨w, t, hsetup, henter⟩
  · rw [henter, paths_resume] at hpath
    cases hpath
  · rw [henter] at hpath
    obtain ⟨hsite, -, -⟩ := Session.isSite_of_setup hsetup
    obtain rfl := List.mem_singleton.1 hpath
    exact hsite

end Config

end RegistryProbe
