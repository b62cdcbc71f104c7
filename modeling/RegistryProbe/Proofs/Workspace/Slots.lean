import Mathlib.Data.List.Induction
import RegistryProbe.Bench
import RegistryProbe.Proofs.Workspace.Setup

/-! # The workspaces of a bench along a run

  A step at a bench does the same to all slots, and a workspace that is set up gets a slot behind
  the others. So what has become of a workspace can be told from the steps since it was set up.

  - `BenchStep.intentAfter` is what a step makes of an intent, and `opened` are the slots it adds.
    Together they say what a step does to the slots: `slots_step`.
  - `trackedIntent` tells the intent of a workspace from the steps since it was set up. The slots
    after a run are those of the workspaces set up in it, with these intents: `mem_slots_after_iff`.
  - The workspace that an id leads to is one that was set up under it when it was free, and has not
    been closed or dropped since: `live?_after_iff`.
-/

namespace RegistryProbe

/-- What a step makes of the intent of a workspace that goes by an id. -/
def BenchStep.intentAfter (id : String) (intent : Option Intent) (step : BenchStep) :
    Option Intent :=
  if step = .close id ∨ step = .drop id then none
  else if step = .finish id then intent.map fun _ => .completed
  else intent

/-- What a step makes of a slot. -/
def Slot.through (slot : Slot) (step : BenchStep) : Slot :=
  { slot with intent := step.intentAfter slot.id slot.intent }

/-- The workspace of a slot, if it goes by an id and is not spent. -/
def Slot.workspace? (id : String) (slot : Slot) : Option Workspace :=
  if slot.id = id then slot.intent.map (⟨slot.path, ·⟩) else none

/-- The intent of a workspace after some steps, told from these steps alone: it is spent once it was
    closed or dropped, completed once it was finished, and aborted before. -/
def trackedIntent (id : String) (steps : List BenchStep) : Option Intent :=
  if .close id ∈ steps ∨ .drop id ∈ steps then none
  else if .finish id ∈ steps then some .completed
  else some .aborted

@[simp] theorem trackedIntent_nil (id : String) : trackedIntent id [] = some .aborted := by
  simp [trackedIntent]

/-- Tracking an intent is to follow it step by step. -/
theorem trackedIntent_concat (id : String) (steps : List BenchStep) (step : BenchStep) :
    trackedIntent id (steps ++ [step]) = step.intentAfter id (trackedIntent id steps) := by
  unfold trackedIntent BenchStep.intentAfter
  simp only [List.mem_append, List.mem_singleton]
  by_cases hspent : BenchStep.close id ∈ steps ∨ BenchStep.drop id ∈ steps <;>
    by_cases hfinish : BenchStep.finish id ∈ steps <;> grind

theorem trackedIntent_ne_failed (id : String) (steps : List BenchStep) :
    trackedIntent id steps ≠ some .failed := by
  unfold trackedIntent
  split
  next => simp
  next => split <;> simp

@[simp] theorem BenchStep.intentAfter_none (id : String) (step : BenchStep) :
    step.intentAfter id none = none := by
  simp [intentAfter]

namespace Bench

variable {b : Bench} {id : String} {w : Workspace}

/-! ### Live workspaces -/

theorem live?_eq (b : Bench) (id : String) :
    b.live? id = b.slots.findSome? (Slot.workspace? id) := rfl

/-- An id is free if all workspaces that went by it are spent. -/
theorem live?_eq_none_iff :
    b.live? id = none ↔ ∀ slot ∈ b.slots, slot.id = id → slot.intent = none := by
  rw [live?_eq, List.findSome?_eq_none_iff]
  refine forall_congr' fun slot => imp_congr_right fun _ => ?_
  by_cases hid : slot.id = id <;> simp [Slot.workspace?, hid]

theorem mem_of_live? (h : b.live? id = some w) : ⟨id, w.path, some w.intent⟩ ∈ b.slots := by
  obtain ⟨⟨other, path, intent⟩, hmem, hslot⟩ := List.exists_of_findSome?_eq_some h
  dsimp only at hslot
  split at hslot
  next hid =>
    obtain ⟨i, rfl, rfl⟩ := Option.map_eq_some_iff.1 hslot
    exact hid ▸ hmem
  next => cases hslot

/-! ### What steps do -/

/-- The answer to closing a workspace. -/
def closing : Except ProbeError Intent → BenchAnswer
  | .error e => .failed e
  | .ok intent => .closed intent

/-- Nothing can be done with a workspace that is spent. -/
theorem step_of_free (h : b.live? id = none) :
    b.step (.finish id) = (.ok false, b) ∧ b.step (.close id) = (.ok false, b) ∧
      b.step (.drop id) = (.ok false, b) := by
  refine ⟨?_, ?_, ?_⟩
  all_goals
    unfold step
    dsimp only
    rw [h]

theorem step_finish (h : b.live? id = some w) :
    b.step (.finish id) = (.ok true, ⟨b.session, mark id (some .completed) b.slots⟩) := by
  unfold step
  dsimp only
  rw [h]
  rfl

theorem step_drop (h : b.live? id = some w) :
    b.step (.drop id) = (.ok true, ⟨b.session.drop w, mark id none b.slots⟩) := by
  unfold step
  dsimp only
  rw [h]

theorem step_close (h : b.live? id = some w) :
    b.step (.close id) =
      (closing (b.session.close w).1, ⟨(b.session.close w).2, mark id none b.slots⟩) := by
  unfold step
  dsimp only
  rw [h]
  dsimp only
  obtain ⟨closed, s⟩ := b.session.close w
  cases closed <;> rfl

/-- Changes of files leave the workspaces as they are. -/
theorem slots_change (b : Bench) (id : Option String) (c : Files.Change) :
    (b.step (.change id c)).2.slots = b.slots := by
  cases id with
  | none => rfl
  | some id =>
    show (b.change (some id) c).2.slots = _
    simp only [change]
    split <;> rfl

-- Setting up makes many attempts, and none is to be evaluated.
attribute [local irreducible] Session.setupIn

theorem step_setup (b : Bench) (id : String) (parent : Option String) :
    b.step (.setup id parent) =
      match b.session.setupIn (parent.getD b.session.temp) with
      | (.error e, s) => (.failed e, { b with session := s })
      | (.ok w, s) => (.ok true, ⟨s, b.slots ++ [⟨id, w.path, some w.intent⟩]⟩) := rfl

/-- The slots that a step adds. Only setting up a workspace adds one. -/
def opened (b : Bench) : BenchStep → List Slot
  | .setup id parent =>
    match (b.session.setupIn (parent.getD b.session.temp)).1 with
    | .ok w => [⟨id, w.path, some .aborted⟩]
    | .error _ => []
  | .finish _ | .close _ | .drop _ | .change _ _ => []

/-- A workspace is set up, or not, and then nothing has changed. -/
theorem step_setup_cases (b : Bench) (id : String) (parent : Option String) :
    (∃ e t, b.session.setupIn (parent.getD b.session.temp) = (.error e, t) ∧
      b.step (.setup id parent) = (.failed e, ⟨t, b.slots⟩) ∧ b.opened (.setup id parent) = []) ∨
    ∃ w t, b.session.setupIn (parent.getD b.session.temp) = (.ok w, t) ∧
      b.step (.setup id parent) =
        (.ok true, ⟨t, b.slots ++ [⟨id, w.path, some .aborted⟩]⟩) ∧
      b.opened (.setup id parent) = [⟨id, w.path, some .aborted⟩] := by
  rcases hsetup : b.session.setupIn (parent.getD b.session.temp) with ⟨made, t⟩
  cases made with
  | error e => exact .inl ⟨e, t, rfl, by rw [step_setup, hsetup], by rw [opened, hsetup]⟩
  | ok w =>
    obtain ⟨tag, d, n, hw, -, -⟩ := Session.setupIn_ok hsetup
    have hintent : w.intent = .aborted := by rw [hw]
    refine .inr ⟨w, t, rfl, ?_, by rw [opened, hsetup]⟩
    rw [step_setup, hsetup, ← hintent]

/-! ### What a step makes of the slots -/

/-- To mark the live workspace of an id is to take a step that changes its intent alone. -/
theorem mark_eq_map_through {step : BenchStep} {intent : Option Intent}
    (hown : ∀ i, step.intentAfter id (some i) = intent)
    (hother : ∀ other ≠ id, ∀ i, step.intentAfter other i = i) (slots : List Slot) :
    mark id intent slots = slots.map (·.through step) := by
  refine List.map_congr_left fun slot _ => ?_
  obtain ⟨other, path, before⟩ := slot
  by_cases hid : other = id
  · subst hid
    cases before with
    | none => simp [Slot.through]
    | some i => simp [Slot.through, hown]
  · simp [Slot.through, hid, hother]

theorem mark_finish (id : String) (slots : List Slot) :
    mark id (some .completed) slots = slots.map (·.through (.finish id)) :=
  mark_eq_map_through (fun i => by simp [BenchStep.intentAfter])
    (fun other hne i => by simp [BenchStep.intentAfter, hne.symm]) slots

theorem mark_close (id : String) (slots : List Slot) :
    mark id none slots = slots.map (·.through (.close id)) :=
  mark_eq_map_through (fun i => by simp [BenchStep.intentAfter])
    (fun other hne i => by simp [BenchStep.intentAfter, hne.symm]) slots

theorem through_drop (id : String) (slot : Slot) :
    slot.through (.drop id) = slot.through (.close id) := by
  simp [Slot.through, BenchStep.intentAfter]

/-- Under a free id there is nothing to mark. -/
theorem mark_of_free (h : b.live? id = none) (intent : Option Intent) :
    mark id intent b.slots = b.slots := by
  have hfree := live?_eq_none_iff.1 h
  refine (List.map_congr_left fun slot hslot => ?_).trans (List.map_id _)
  refine if_neg fun hmarked => ?_
  rw [hfree slot hslot hmarked.1] at hmarked
  cases hmarked.2

theorem slots_finish (b : Bench) (id : String) :
    (b.step (.finish id)).2.slots = b.slots.map (·.through (.finish id)) := by
  rw [← mark_finish]
  cases hlive : b.live? id with
  | none => rw [(step_of_free hlive).1, mark_of_free hlive]
  | some w => rw [step_finish hlive]

theorem slots_close (b : Bench) (id : String) :
    (b.step (.close id)).2.slots = b.slots.map (·.through (.close id)) := by
  rw [← mark_close]
  cases hlive : b.live? id with
  | none => rw [(step_of_free hlive).2.1, mark_of_free hlive]
  | some w => rw [step_close hlive]

theorem slots_drop (b : Bench) (id : String) :
    (b.step (.drop id)).2.slots = b.slots.map (·.through (.drop id)) := by
  simp only [through_drop]
  rw [← mark_close]
  cases hlive : b.live? id with
  | none => rw [(step_of_free hlive).2.2, mark_of_free hlive]
  | some w => rw [step_drop hlive]

/-- What a step does to the slots. -/
theorem slots_step (b : Bench) (step : BenchStep) :
    (b.step step).2.slots = b.slots.map (·.through step) ++ b.opened step := by
  cases step with
  | finish id => rw [slots_finish, opened, List.append_nil]
  | close id => rw [slots_close, opened, List.append_nil]
  | drop id => rw [slots_drop, opened, List.append_nil]
  | change id c =>
    have hkept : b.slots.map (·.through (.change id c)) = b.slots := by
      simp [Slot.through, BenchStep.intentAfter]
    rw [slots_change, hkept, opened, List.append_nil]
  | setup id parent =>
    have hkept : b.slots.map (·.through (.setup id parent)) = b.slots := by
      simp [Slot.through, BenchStep.intentAfter]
    rw [hkept]
    rcases step_setup_cases b id parent with ⟨e, t, -, hstep, hopened⟩ | ⟨w, t, -, hstep, hopened⟩
    · rw [hstep, hopened, List.append_nil]
    · rw [hstep, hopened]

/-- A slot that a step adds belongs to the workspace that the step sets up. -/
theorem mem_opened {step : BenchStep} {slot : Slot} (h : slot ∈ b.opened step) :
    ∃ id parent w t, step = .setup id parent ∧
      b.session.setupIn (parent.getD b.session.temp) = (.ok w, t) ∧
      slot = ⟨id, w.path, some .aborted⟩ ∧ b.opened step = [slot] := by
  cases step with
  | setup id parent =>
    rcases step_setup_cases b id parent with ⟨e, t, -, -, hopened⟩ | ⟨w, t, hsetup, -, hopened⟩
    · rw [hopened] at h
      cases h
    · rw [hopened] at h ⊢
      obtain rfl := List.mem_singleton.1 h
      exact ⟨id, parent, w, t, rfl, hsetup, rfl, rfl⟩
  | finish id => cases h
  | close id => cases h
  | drop id => cases h
  | change id c => cases h

/-! ### What a step makes of the live workspaces -/

theorem workspace?_through {step : BenchStep} (h : ¬(step = .close id ∨ step = .drop id))
    (slot : Slot) :
    (slot.through step).workspace? id = (slot.workspace? id).map fun w =>
      ⟨w.path, if step = .finish id then .completed else w.intent⟩ := by
  obtain ⟨other, path, intent⟩ := slot
  by_cases hid : other = id
  · subst hid
    by_cases hfinish : step = .finish other <;>
      simp [Slot.workspace?, Slot.through, BenchStep.intentAfter, h, hfinish,
        Option.map_map, Function.comp_def]
  · simp [Slot.workspace?, Slot.through, hid]

/-- An id leads to the same workspace until this is closed or dropped. -/
theorem live?_step_of_live (h : b.live? id = some w) (step : BenchStep) :
    (b.step step).2.live? id =
      (step.intentAfter id (some w.intent)).map (⟨w.path, ·⟩) := by
  by_cases hspent : step = .close id ∨ step = .drop id
  · -- all slots of the id are spent, and no step that does so adds one
    have hopened : b.opened step = [] := by
      rcases hspent with rfl | rfl <;> rfl
    rw [BenchStep.intentAfter, if_pos hspent, Option.map_none, live?_eq_none_iff, slots_step,
      hopened, List.append_nil]
    intro slot hslot hid
    obtain ⟨old, -, rfl⟩ := List.mem_map.1 hslot
    exact if_pos (by rwa [show old.id = id from hid])
  · rw [live?_eq, slots_step, List.findSome?_append, List.findSome?_map]
    have hkept : (Slot.workspace? id ∘ fun slot : Slot => slot.through step) =
        Option.map (fun w => ⟨w.path, if step = .finish id then .completed else w.intent⟩) ∘
          Slot.workspace? id :=
      funext (workspace?_through hspent)
    rw [hkept, ← List.map_findSome?, ← live?_eq, h, BenchStep.intentAfter, if_neg hspent]
    split <;> rfl

/-- A step sets up a workspace at a path, under an id that is free. -/
def Begins (b : Bench) (step : BenchStep) (id path : String) : Prop :=
  b.live? id = none ∧ b.opened step = [⟨id, path, some .aborted⟩]

/-- A free id stays free unless a workspace is set up under it. -/
theorem live?_step_of_free (h : b.live? id = none) (step : BenchStep) :
    (b.step step).2.live? id = some w ↔ b.Begins step id w.path ∧ w.intent = .aborted := by
  have hfree := live?_eq_none_iff.1 h
  have hnone : (b.slots.map (·.through step)).findSome? (Slot.workspace? id) = none := by
    rw [List.findSome?_eq_none_iff]
    intro slot hslot
    obtain ⟨old, hold, rfl⟩ := List.mem_map.1 hslot
    by_cases hid : old.id = id
    · simp [Slot.workspace?, Slot.through, hfree old hold hid]
    · simp [Slot.workspace?, Slot.through, hid]
  rw [live?_eq, slots_step, List.findSome?_append, hnone, Option.none_or]
  constructor
  · intro hw
    obtain ⟨slot, hslot, hworkspace⟩ := List.exists_of_findSome?_eq_some hw
    obtain ⟨other, parent, made, t, -, -, rfl, hopened⟩ := mem_opened hslot
    obtain ⟨hid, hmade⟩ := Option.ite_none_right_eq_some.1 hworkspace
    dsimp only at hid hmade
    obtain rfl := Option.some.inj hmade
    exact ⟨⟨h, hid ▸ hopened⟩, rfl⟩
  · rintro ⟨⟨-, hopened⟩, hintent⟩
    simp [hopened, Slot.workspace?, ← hintent]

/-- After a step an id leads to a workspace that begins with it, or to the one before the step. -/
theorem live?_step_eq_some_iff {step : BenchStep} :
    (b.step step).2.live? id = some w ↔
      (b.Begins step id w.path ∧ w.intent = .aborted) ∨
        ∃ i, b.live? id = some ⟨w.path, i⟩ ∧ step.intentAfter id (some i) = some w.intent := by
  cases hlive : b.live? id with
  | none =>
    rw [live?_step_of_free hlive]
    simp
  | some old =>
    rw [live?_step_of_live hlive, Option.map_eq_some_iff]
    simp only [Begins, hlive, reduceCtorEq, false_and, false_or, Option.some.injEq]
    constructor
    · rintro ⟨i, hintent, rfl⟩
      exact ⟨old.intent, rfl, hintent⟩
    · rintro ⟨i, rfl, hintent⟩
      exact ⟨w.intent, hintent, rfl⟩

/-! ### Runs -/

/-- The bench after some steps. -/
def after (b : Bench) (steps : List BenchStep) : Bench :=
  steps.foldl (fun b step => (b.step step).2) b

@[simp] theorem after_nil (b : Bench) : b.after [] = b := rfl

theorem after_concat (b : Bench) (steps : List BenchStep) (step : BenchStep) :
    b.after (steps ++ [step]) = ((b.after steps).step step).2 := by
  simp [after]

/-- A step of a run that gets one more step is this step, or one of the others. -/
theorem exists_split_concat {steps : List BenchStep} {step : BenchStep}
    {P : List BenchStep → BenchStep → List BenchStep → Prop} :
    (∃ earlier s later, steps ++ [step] = earlier ++ s :: later ∧ P earlier s later) ↔
      P steps step [] ∨
        ∃ earlier s later, steps = earlier ++ s :: later ∧ P earlier s (later ++ [step]) := by
  constructor
  · rintro ⟨earlier, s, later, hsplit, hP⟩
    rcases later.eq_nil_or_concat with rfl | ⟨front, last, rfl⟩
    · obtain ⟨rfl, rfl⟩ := List.append_singleton_inj.1 hsplit
      exact .inl hP
    · rw [List.concat_eq_append, ← List.cons_append, ← List.append_assoc] at hsplit
      obtain ⟨rfl, rfl⟩ := List.append_singleton_inj.1 hsplit
      exact .inr ⟨earlier, s, front, rfl, by rwa [← List.concat_eq_append]⟩
  · rintro (hP | ⟨earlier, s, later, rfl, hP⟩)
    · exact ⟨steps, step, [], rfl, hP⟩
    · exact ⟨earlier, s, later ++ [step], by simp, hP⟩

variable {start : Bench}

/-- The slots after a run are those of the workspaces that were set up in it. -/
theorem mem_slots_after_iff (hstart : start.slots = []) (steps : List BenchStep) (slot : Slot) :
    slot ∈ (start.after steps).slots ↔
      ∃ earlier step later, steps = earlier ++ step :: later ∧
        (start.after earlier).opened step = [⟨slot.id, slot.path, some .aborted⟩] ∧
        slot.intent = trackedIntent slot.id later := by
  -- by induction on the run from its end: the last step adds a slot or changes those there are
  induction steps using List.reverseRecOn generalizing slot with
  | nil => simp [hstart]
  | append_singleton steps step ih =>
    rw [after_concat, slots_step, List.mem_append, List.mem_map, exists_split_concat, or_comm]
    refine or_congr ?_ ?_
    · constructor
      · intro hslot
        obtain ⟨id, parent, w, t, -, -, rfl, hopened⟩ := mem_opened hslot
        exact ⟨hopened, (trackedIntent_nil id).symm⟩
      · rintro ⟨hopened, hintent⟩
        rw [hopened, List.mem_singleton, ← trackedIntent_nil slot.id, ← hintent]
    · constructor
      · rintro ⟨old, hold, rfl⟩
        obtain ⟨earlier, s, later, hsplit, hopened, hintent⟩ := (ih old).1 hold
        refine ⟨earlier, s, later, hsplit, hopened, ?_⟩
        rw [trackedIntent_concat]
        exact congrArg (step.intentAfter old.id) hintent
      · rintro ⟨earlier, s, later, hsplit, hopened, hintent⟩
        refine ⟨⟨slot.id, slot.path, trackedIntent slot.id later⟩,
          (ih _).2 ⟨earlier, s, later, hsplit, hopened, rfl⟩, ?_⟩
        rw [trackedIntent_concat] at hintent
        rw [Slot.through, ← hintent]

/-- What is live after one more step was live before it. -/
theorem exists_tracked_concat {steps : List BenchStep} {step : BenchStep} {intent : Intent}
    {P : List BenchStep → BenchStep → Prop} :
    (∃ earlier s later, steps = earlier ++ s :: later ∧ P earlier s ∧
      trackedIntent id (later ++ [step]) = some intent) ↔
    ∃ i, (∃ earlier s later, steps = earlier ++ s :: later ∧ P earlier s ∧
      trackedIntent id later = some i) ∧ step.intentAfter id (some i) = some intent := by
  constructor
  · rintro ⟨earlier, s, later, hsplit, hP, htracked⟩
    rw [trackedIntent_concat] at htracked
    cases hlater : trackedIntent id later with
    | none => simp [hlater] at htracked
    | some i =>
      rw [hlater] at htracked
      exact ⟨i, ⟨earlier, s, later, hsplit, hP, hlater⟩, htracked⟩
  · rintro ⟨i, ⟨earlier, s, later, hsplit, hP, hlater⟩, hintent⟩
    refine ⟨earlier, s, later, hsplit, hP, ?_⟩
    rw [trackedIntent_concat, hlater, hintent]

/-- A live workspace was set up when its id was free, and its intent is the one that is told from
    the steps since then. -/
theorem live?_after_iff (hstart : start.slots = []) (steps : List BenchStep) (id : String)
    (w : Workspace) :
    (start.after steps).live? id = some w ↔
      ∃ earlier step later, steps = earlier ++ step :: later ∧
        (start.after earlier).Begins step id w.path ∧ trackedIntent id later = some w.intent := by
  induction steps using List.reverseRecOn generalizing w with
  | nil => simp [live?_eq, hstart]
  | append_singleton steps step ih =>
    rw [after_concat, live?_step_eq_some_iff, exists_split_concat, exists_tracked_concat]
    refine or_congr (and_congr_right fun _ => ?_) (exists_congr fun i => and_congr_left fun _ => ?_)
    · rw [trackedIntent_nil, Option.some.injEq, eq_comm]
    · exact ih ⟨w.path, i⟩

end Bench

end RegistryProbe
