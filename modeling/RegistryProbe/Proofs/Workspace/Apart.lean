import RegistryProbe.Proofs.Workspace.Slots

/-! # Workspaces keep apart

  Any number of workspaces may be set up, finished, closed and dropped in any order, with changes of
  files in between. None gets in the way of another.

  - All workspaces of a run that starts without any are at sites: `isSited_after`. So it does not
    matter what has become of their directories when they end.
  - `Ends` says what becomes of a workspace that is closed or dropped, and of the files of the
    others, `SetsUp` what setting one up does, and `Tracks` which intents the workspaces have.
  - `workspaces_keep_apart` says that this is so after every run.
-/

namespace RegistryProbe

open Files

namespace Session

variable {s : Session} {w : Workspace}

/-! ### Closing -/

/-- Closing and dropping have the same effect on the disk. -/
theorem disk_close (w : Workspace) (s : Session) : (s.close w).2.disk = (s.drop w).disk := by
  unfold close drop
  rcases s.disk.removeDirectory w.path with ⟨disk, _ | _⟩ <;> rfl

theorem close_of_directory (hsite : Disk.IsSite w.path)
    (h : s.disk.look? w.path = some .directory) : (s.close w).1 = .ok w.intent := by
  rw [close, Disk.removeDirectory_of_isSite hsite h]

theorem close_of_no_directory (h : s.disk.look? w.path ≠ some .directory) :
    ∃ f, (s.close w).1 = .error (.file .removingWorkspace w.path (.faultAt f w.path)) := by
  obtain ⟨f, hf⟩ := Disk.removeDirectory_of_no_directory h
  exact ⟨f, by rw [close, hf]⟩

end Session

namespace Bench

variable {b : Bench} {id : String} {w : Workspace}

/-! ### Sites -/

/-- All workspaces, the spent ones included, are at sites. -/
def IsSited (b : Bench) : Prop := ∀ slot ∈ b.slots, Disk.IsSite slot.path

theorem isSited_step (h : IsSited b) (step : BenchStep) : IsSited (b.step step).2 := by
  intro slot hslot
  rw [slots_step, List.mem_append, List.mem_map] at hslot
  rcases hslot with ⟨old, hold, rfl⟩ | hnew
  · exact h old hold
  · obtain ⟨id, parent, w, t, -, hsetup, rfl, -⟩ := mem_opened hnew
    exact (Session.isSite_of_setupIn hsetup).1

theorem isSited_after (h : IsSited b) (steps : List BenchStep) : IsSited (b.after steps) := by
  induction steps using List.reverseRecOn with
  | nil => exact h
  | append_singleton steps step ih =>
    rw [after_concat]
    exact isSited_step ih step

/-! ### Ending a workspace -/

/-- What becomes of a workspace that is closed or dropped, and of the files of the others. -/
structure Ends (b : Bench) (id : String) (w : Workspace) : Prop where
  /-- Closing and dropping differ in nothing but their answers. -/
  drop_disk : (b.step (.drop id)).2.session.disk = (b.step (.close id)).2.session.disk
  drop_slots : (b.step (.drop id)).2.slots = (b.step (.close id)).2.slots
  drop_answer : (b.step (.drop id)).1 = .ok true
  /-- Closing tells the intent if a directory stands at the path, and only then. -/
  closed_iff : ∀ intent, (b.step (.close id)).1 = .closed intent ↔
    b.session.disk.look? w.path = some .directory ∧ intent = w.intent
  /-- Otherwise it tells why the workspace could not be removed. -/
  failed : b.session.disk.look? w.path ≠ some .directory →
    ∃ f, (b.step (.close id)).1 = .failed (.file .removingWorkspace w.path (.faultAt f w.path))
  /-- The workspace is spent in either case. -/
  spent : (b.step (.close id)).2.live? id = none
  /-- The directory goes with all below it, and nothing else does. -/
  removed : Disk.Removed w.path b.session.disk (b.step (.close id)).2.session.disk
  /-- Without a directory at the path nothing changes. -/
  unchanged : b.session.disk.look? w.path ≠ some .directory →
    (b.step (.close id)).2.session.disk = b.session.disk
  /-- A workspace that does not lie within this one keeps its files, except for those that are in
      this one as well. -/
  others : ∀ slot ∈ b.slots, ¬ Disk.placeOf w.path <+: Disk.placeOf slot.path →
    ∀ q, Disk.placeOf slot.path <+: q →
      (b.step (.close id)).2.session.disk.tree.look? q = b.session.disk.tree.look? q ∨
        Disk.placeOf slot.path <+: Disk.placeOf w.path ∧ Disk.placeOf w.path <+: q

/-- The disk after a workspace was closed. -/
theorem disk_step_close (h : b.live? id = some w) :
    (b.step (.close id)).2.session.disk = (b.session.disk.removeDirectory w.path).1 := by
  rw [step_close h]
  exact Session.disk_close w b.session

/-- The answer to closing a workspace tells what its removal said. -/
theorem answer_step_close (h : b.live? id = some w) :
    (b.step (.close id)).1 = closing (b.session.close w).1 := by
  rw [step_close h]

theorem ends_of_live (hsited : IsSited b) (h : b.live? id = some w) : b.Ends id w := by
  have hsite : Disk.IsSite w.path := hsited _ (mem_of_live? h)
  have hremoved := Disk.removed_of_isSite hsite b.session.disk
  have hdisk := disk_step_close h
  have hanswer := answer_step_close h
  constructor
  case drop_disk =>
    rw [hdisk, step_drop h]
    rfl
  case drop_slots => simp only [slots_drop, slots_close, through_drop]
  case drop_answer => rw [step_drop h]
  case closed_iff =>
    intro intent
    rw [hanswer]
    by_cases hdir : b.session.disk.look? w.path = some .directory
    · rw [Session.close_of_directory hsite hdir]
      simp [closing, hdir, eq_comm]
    · obtain ⟨f, hf⟩ := Session.close_of_no_directory hdir
      rw [hf]
      simp [closing, hdir]
  case failed =>
    intro hnone
    obtain ⟨f, hf⟩ := Session.close_of_no_directory hnone
    exact ⟨f, by rw [hanswer, hf]; rfl⟩
  case spent =>
    rw [live?_step_of_live h, BenchStep.intentAfter, if_pos (.inl rfl), Option.map_none]
  case removed => rwa [hdisk]
  case unchanged =>
    intro hnone
    obtain ⟨f, hf⟩ := Disk.removeDirectory_of_no_directory hnone
    rw [hdisk, hf]
  case others =>
    intro slot hslot houtside q hq
    rw [hdisk]
    by_cases hbelow : Disk.placeOf w.path <+: q
    · -- of two places above a third one, one lies within the other
      refine .inr ⟨?_, hbelow⟩
      exact (List.prefix_or_prefix_of_prefix hbelow hq).resolve_left houtside
    · exact .inl (hremoved.elsewhere q hbelow)

/-! ### Setting up a workspace -/

/-- What setting up a workspace does: either nothing, or it makes one directory, away from all
    workspaces that still have something at their places. -/
inductive SetsUp (b : Bench) (id : String) (parent : Option String) : Prop where
  | failed (e : ProbeError)
      (answer : (b.step (.setup id parent)).1 = .failed e)
      (disk_eq : (b.step (.setup id parent)).2.session.disk = b.session.disk)
      (slots_eq : (b.step (.setup id parent)).2.slots = b.slots)
      (opened_eq : b.opened (.setup id parent) = [])
  | made (path : String)
      (answer : (b.step (.setup id parent)).1 = .ok true)
      (slots_eq : (b.step (.setup id parent)).2.slots = b.slots ++ [⟨id, path, some .aborted⟩])
      (opened_eq : b.opened (.setup id parent) = [⟨id, path, some .aborted⟩])
      (made : Disk.Made path b.session.disk (b.step (.setup id parent)).2.session.disk)
      (apart : ∀ slot ∈ b.slots, b.session.disk.tree.look? (Disk.placeOf slot.path) ≠ none →
        path ≠ slot.path ∧ Disk.placeOf path ≠ Disk.placeOf slot.path)

theorem setsUp (b : Bench) (id : String) (parent : Option String) : b.SetsUp id parent := by
  rcases step_setup_cases b id parent with
    ⟨e, t, hsetup, hstep, hopened⟩ | ⟨w, t, hsetup, hstep, hopened⟩
  · obtain ⟨n, rfl⟩ := Session.setupIn_error hsetup
    exact .failed e (by rw [hstep]) (by rw [hstep]) (by rw [hstep]) hopened
  · have hmade := (Session.isSite_of_setupIn hsetup).2
    refine .made w.path (by rw [hstep]) (by rw [hstep]) hopened (by rwa [hstep]) ?_
    intro slot _ hstands
    -- at the place of the new directory nothing stood
    have hplace : Disk.placeOf w.path ≠ Disk.placeOf slot.path := by
      intro h
      rw [← h] at hstands
      exact hstands hmade.new
    exact ⟨fun h => hplace (by rw [h]), hplace⟩

/-! ### The intents -/

/-- Which intents the workspaces of a run have. -/
structure Tracks (start : Bench) (steps : List BenchStep) : Prop where
  /-- An id leads to the workspace that was set up under it when it was free and has not been spent
      since. Its intent is `aborted` until a later step finishes it, `completed` from then on. -/
  live?_iff : ∀ id w, (start.after steps).live? id = some w ↔
    ∃ earlier step later, steps = earlier ++ step :: later ∧
      (start.after earlier).Begins step id w.path ∧ trackedIntent id later = some w.intent
  /-- The slots are those of the workspaces that were set up in the run, the spent ones included. -/
  mem_slots_iff : ∀ slot, slot ∈ (start.after steps).slots ↔
    ∃ earlier step later, steps = earlier ++ step :: later ∧
      (start.after earlier).opened step = [⟨slot.id, slot.path, some .aborted⟩] ∧
      slot.intent = trackedIntent slot.id later
  /-- No workspace is ever on its way to fail. -/
  not_failed : ∀ slot ∈ (start.after steps).slots, slot.intent ≠ some .failed
  /-- A workspace stays as it is under all steps that do not finish, close or drop it. -/
  undisturbed : ∀ id w step, (start.after steps).live? id = some w → step ≠ .finish id →
    step ≠ .close id → step ≠ .drop id → ((start.after steps).step step).2.live? id = some w

theorem tracks {start : Bench} (hstart : start.slots = []) (steps : List BenchStep) :
    start.Tracks steps := by
  refine ⟨live?_after_iff hstart steps, mem_slots_after_iff hstart steps, ?_, ?_⟩
  · intro slot hslot
    obtain ⟨earlier, step, later, -, -, hintent⟩ := (mem_slots_after_iff hstart steps slot).1 hslot
    rw [hintent]
    exact trackedIntent_ne_failed slot.id later
  · intro id w step hlive hfinish hclose hdrop
    rw [live?_step_of_live hlive, BenchStep.intentAfter, if_neg (not_or.2 ⟨hclose, hdrop⟩),
      if_neg hfinish]
    rfl

/-! ### Every run -/

/-- What is so of the workspaces after a run. -/
structure KeepsApart (start : Bench) (steps : List BenchStep) : Prop where
  /-- Their intents are those of the steps. -/
  tracks : start.Tracks steps
  /-- Whichever of them is closed or dropped next takes its directory along and nothing else. -/
  ends : ∀ id w, (start.after steps).live? id = some w → (start.after steps).Ends id w
  /-- Whichever is set up next is new. -/
  setsUp : ∀ id parent, (start.after steps).SetsUp id parent

/-- Workspaces keep apart, whatever steps are taken at a bench that starts without any, and whatever
    files there are. -/
theorem workspaces_keep_apart (s : Session) (steps : List BenchStep) :
    KeepsApart ⟨s, []⟩ steps where
  tracks := Bench.tracks rfl steps
  ends id w hlive := by
    have hstart : IsSited ⟨s, []⟩ := fun slot hslot => by cases hslot
    exact ends_of_live (isSited_after hstart steps) hlive
  setsUp id parent := Bench.setsUp _ id parent

end Bench

end RegistryProbe
