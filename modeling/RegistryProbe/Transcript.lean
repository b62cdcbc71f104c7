import RegistryProbe.LogFilter.Basic
import RegistryProbe.Session

/-! # What a session shows

  The user sees a session on two channels: its results on the one, its diagnostics and log lines on
  the other. Both are read off the journal, so each channel shows things in the order in which they
  happened, and the results never mix with the rest.
-/

namespace RegistryProbe

/-- A channel to the user. -/
inductive Channel where
  /-- The channel for results. -/
  | results
  /-- The channel for diagnostics and log lines. -/
  | remarks
deriving DecidableEq, Repr

/-- Something that the user is told. -/
structure Utterance where
  /-- Where it is told. -/
  channel : Channel
  /-- What is told. -/
  text : Bytes
deriving DecidableEq, Repr

/-- How remarks are shown. -/
structure Manner where
  /-- Which log lines are shown. -/
  filter : LogFilter
  /-- Whether log lines have no styles. -/
  plain : Bool
deriving DecidableEq, Repr

/-- A text as a line of bytes. -/
def lineOf (text : String) : Bytes := Bytes.ofText text ++ [0x0A]

/-- What the user is told of an event. -/
def Event.utterance? (m : Manner) (e : Event) : Option Utterance :=
  match e with
  | printed line => some ⟨.results, lineOf line⟩
  | reported program error =>
    some ⟨.remarks, (Diagnostics.report program error {}).2.received⟩
  | e =>
    match e.logLine? with
    | none => none
    | some line =>
      if m.filter.shows line then
        some ⟨.remarks, lineOf (if m.plain then line.plain else line.coloured)⟩
      else none

namespace Session

/-- All that the user is told, the earliest first. -/
def transcript (m : Manner) (s : Session) : List Utterance :=
  s.journal.filterMap (Event.utterance? m)

/-- All that is told on a channel. -/
def shown (c : Channel) (m : Manner) (s : Session) : Bytes :=
  ((s.transcript m).filter (·.channel = c)).flatMap Utterance.text

theorem transcript_note (m : Manner) (s : Session) (e : Event) :
    (s.note e).transcript m = s.transcript m ++ (e.utterance? m).toList :=
  filterMap_journal_note (Event.utterance? m) s e

/-- An entry only ever adds to the end of a channel. -/
theorem shown_note (c : Channel) (m : Manner) (s : Session) (e : Event) :
    ∃ more, (s.note e).shown c m = s.shown c m ++ more := by
  unfold shown
  rw [transcript_note, List.filter_append, List.flatMap_append]
  exact ⟨_, rfl⟩

/-- What an event tells on the channel for results is the line that it prints, if any. -/
theorem results_of_event (m : Manner) (e : Event) :
    ((e.utterance? m).toList.filter (·.channel = .results)).flatMap Utterance.text
      = e.printed?.toList.flatMap lineOf := by
  -- a log line is a remark, whether or not it is shown
  cases e <;> simp [Event.utterance?, Event.printed?, Event.logLine?]

/-- The results are the printed lines, whatever the manner of remarks. -/
theorem shown_results (m : Manner) (s : Session) :
    s.shown .results m = s.printed.flatMap lineOf := by
  unfold shown transcript printed
  have head (α : Type) (read? : Event → Option α) (e : Event) (events : List Event) :
      (e :: events).filterMap read? = (read? e).toList ++ events.filterMap read? := by
    cases h : read? e <;> simp [h]
  induction s.journal with
  | nil => rfl
  | cons e events ih =>
    rw [head, head, List.filter_append, List.flatMap_append, List.flatMap_append, ih,
      results_of_event]

end Session

end RegistryProbe
