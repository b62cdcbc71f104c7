import Mathlib.Data.List.Forall2
import Mathlib.Data.List.Infix
import RegistryProbe.Diagnostics

/-! # A stream that fills up

  What diagnostics write goes to a stream in pieces, and the stream may be full within any of them.
  It then holds the beginning of all that was to be written, and nothing after the gap.

  - How a text is cut into pieces makes no difference: `pushAll_eq_push`.
  - `Step.output` is what a step writes where there is room, `Step.intent?` the intent that it
    gives. A step pushes the one and gives the other, whatever the stream: `step_eq`.
  - `BeginningOf` relates a stream with a limit to one without. Every piece keeps the relation:
    `BeginningOf.push`. So every step does, and a run keeps it from step to step:
    `beginningOf_run`.
-/

namespace RegistryProbe

namespace Stream

variable {s : Stream}

/-! ### Pieces -/

@[simp] theorem push_nil (s : Stream) : s.push [] = (s, true) := by
  obtain ⟨room, received⟩ := s
  cases room <;> simp [push]

/-- A stream that has cut a piece is full, so it takes nothing of what would have followed. -/
theorem push_append_of_cut {piece : Bytes} (h : (s.push piece).2 = false) (rest : Bytes) :
    (s.push (piece ++ rest)).1 = (s.push piece).1 := by
  obtain ⟨room, received⟩ := s
  cases room with
  | none => simp [push] at h
  | some room =>
    have hfull : room < piece.length := by simpa [push] using h
    have hroom : room - (piece.length + rest.length) = room - piece.length := by omega
    simp [push, List.take_append_of_le_length (Nat.le_of_lt hfull), hroom]

/-- Two pieces in a row are taken like one. -/
theorem push_push (s : Stream) (piece rest : Bytes) :
    ((s.push piece).1.push rest).1 = (s.push (piece ++ rest)).1 := by
  obtain ⟨room, received⟩ := s
  cases room with
  | none => simp [push]
  | some room => simp [push, List.take_append, Nat.sub_sub]

/-- Pieces are taken like the text that they make up. -/
theorem pushAll_eq_push (s : Stream) (pieces : List Bytes) :
    s.pushAll pieces = (s.push pieces.flatten).1 := by
  induction pieces generalizing s with
  | nil => simp [pushAll]
  | cons piece pieces ih =>
    rw [List.flatten_cons, pushAll]
    -- the stream goes on if it took the whole piece, and otherwise it is full
    cases hpush : s.push piece with
    | mk t whole =>
      cases whole with
      | true =>
        have ht : (s.push piece).1 = t := by rw [hpush]
        rw [← push_push, ht]
        exact ih t
      | false =>
        have hcut : (s.push piece).2 = false := by rw [hpush]
        rw [push_append_of_cut hcut, hpush]

/-! ### A limit -/

/-- A stream with a limit holds the beginning of what a stream without one holds, as much as its
    capacity allows. -/
structure BeginningOf (capacity : Nat) (cut whole : Stream) : Prop where
  unlimited : whole.room = none
  room_eq : cut.room = some (capacity - whole.received.length)
  received_eq : cut.received = whole.received.take capacity

theorem beginningOf_empty (capacity : Nat) : BeginningOf capacity ⟨some capacity, []⟩ {} := by
  constructor <;> simp

/-- The two streams take another piece. -/
theorem BeginningOf.push {capacity : Nat} {cut whole : Stream}
    (h : BeginningOf capacity cut whole) (piece : Bytes) :
    BeginningOf capacity (cut.push piece).1 (whole.push piece).1 := by
  obtain ⟨room, received⟩ := cut
  obtain ⟨room', received'⟩ := whole
  obtain ⟨hroom', hroom, hreceived⟩ := h
  simp only at hroom' hroom hreceived
  subst hroom' hroom hreceived
  refine ⟨rfl, ?_, ?_⟩
  · simp [Stream.push, Nat.sub_sub]
  · simp [Stream.push, List.take_append]

end Stream

namespace Diagnostics

variable {program : String}

/-! ### Steps -/

/-- The line that tells a failure. -/
def line (program message : String) : Bytes :=
  Bytes.ofText (program ++ ": error: " ++ message) ++ [0x0A]

/-- A body in its visible rendering. A last line without a newline gets one. -/
def shown (body : Bytes) : Bytes :=
  let rendering := Text.Visible.escape body
  if rendering.getLast? = some 0x0A then rendering else rendering ++ [0x0A]

/-- What a step writes where there is room for it. -/
def Step.output (program : String) : Step → Bytes
  | .fail message => line program message
  | .dump body => shown body
  | .report e => (e.body?.map shown).getD [] ++ line program e.message

/-- The intent that a step gives: whoever tells a failure fails, and showing a body gives none. -/
def Step.intent? : Step → Option Intent
  | .fail _ => some .failed
  | .dump _ => none
  | .report _ => some .failed

theorem fail_eq (program message : String) (s : Stream) :
    fail program message s = (.failed, (s.push (line program message)).1) := by
  have hline : (failureLine program message).flatten = line program message := by
    simp [failureLine, line]
  rw [fail, Stream.pushAll_eq_push, hline]

theorem dump_eq (body : Bytes) (s : Stream) : dump body s = (s.push (shown body)).1 := by
  have hshown : (bodyDump body).flatten = shown body := by
    unfold bodyDump shown
    dsimp only
    split <;> simp
  rw [dump, Stream.pushAll_eq_push, hshown]

theorem report_eq (program : String) (e : ProbeError) (s : Stream) :
    report program e s = (.failed, (s.push ((Step.report e).output program)).1) := by
  unfold report Step.output
  cases hbody : e.body? with
  | none => simp [hbody, fail_eq]
  | some body => simp [hbody, fail_eq, dump_eq, Stream.push_push]

/-- A step writes its output and gives its intent, whatever becomes of what it writes. -/
theorem step_eq (program : String) (s : Stream) (a : Step) :
    step program s a = (a.intent?, (s.push (a.output program)).1) := by
  cases a with
  | fail message => simp [step, fail_eq, Step.intent?, Step.output]
  | dump body => simp [step, dump_eq, Step.intent?, Step.output]
  | report e => simp [step, report_eq, Step.intent?]

/-! ### Runs -/

theorem run_cons (program : String) (s : Stream) (a : Step) (steps : List Step) :
    run program s (a :: steps) =
      (a.intent?, (s.push (a.output program)).1) ::
        run program (s.push (a.output program)).1 steps := by
  rw [run, step_eq]

theorem intents_run (program : String) (s : Stream) (steps : List Step) :
    (run program s steps).map Prod.fst = steps.map Step.intent? := by
  induction steps generalizing s with
  | nil => rfl
  | cons a steps ih => rw [run_cons, List.map_cons, List.map_cons, ih]

/-- Without a limit the stream has received, after each step, what the steps so far write. -/
theorem received_run (program : String) (before : Bytes) (steps : List Step) :
    (run program ⟨none, before⟩ steps).map (fun r => r.2.received) =
      steps.inits.tail.map fun done => before ++ done.flatMap (Step.output program) := by
  induction steps generalizing before with
  | nil => rfl
  | cons a steps ih =>
    have hinits : steps.inits = [] :: steps.inits.tail := by cases steps <;> simp
    rw [run_cons, List.map_cons, List.inits_cons, List.tail_cons, hinits, List.map_cons,
      List.map_cons]
    simp only [Stream.push]
    rw [ih, List.map_map]
    simp [Function.comp_def]

/-- Two streams that agree as far as the limit goes do so after each step of a run. -/
theorem beginningOf_run {capacity : Nat} {cut whole : Stream}
    (h : Stream.BeginningOf capacity cut whole) (steps : List Step) :
    List.Forall₂ (fun a b => a.1 = b.1 ∧ Stream.BeginningOf capacity a.2 b.2)
      (run program cut steps) (run program whole steps) := by
  induction steps generalizing cut whole with
  | nil => exact .nil
  | cons a steps ih =>
    have hpush := h.push (a.output program)
    rw [run_cons, run_cons]
    exact .cons ⟨rfl, hpush⟩ (ih hpush)

/-- A stream that fills up has received, after each step of a run, the beginning of what a stream
    without a limit would have received by then, as much as it can hold. That other stream receives
    all that the steps write. The intents are the same on both: every step is taken, and each that
    tells a failure fails. -/
theorem full_streams_hold_beginnings (program : String) (capacity : Nat) (steps : List Step) :
    List.Forall₂ (fun cut whole => cut.2.received = whole.2.received.take capacity)
        (run program ⟨some capacity, []⟩ steps) (run program {} steps) ∧
      (run program {} steps).map (fun r => r.2.received) =
        steps.inits.tail.map (fun done => done.flatMap (Step.output program)) ∧
      (run program ⟨some capacity, []⟩ steps).map Prod.fst = steps.map Step.intent? ∧
      (run program {} steps).map Prod.fst = steps.map Step.intent? := by
  refine ⟨?_, ?_, intents_run program _ steps, intents_run program _ steps⟩
  · have hbeginning := Stream.beginningOf_empty capacity
    exact (beginningOf_run hbeginning steps).imp fun _ _ h => h.2.received_eq
  · simpa using received_run program [] steps

end Diagnostics

end RegistryProbe
