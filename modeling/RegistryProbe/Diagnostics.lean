import RegistryProbe.Intent
import RegistryProbe.ProbeError
import RegistryProbe.Text.Visible

/-! # Diagnostics

  A failure is told in one line, `<program>: error: <message>`. If a response caused it, the body
  stands in front of that line in its visible rendering, ended by a newline.

  The lines go to a stream that may fill up. A write is cut where the stream is full, the rest of
  that message is given up, and what follows is tried again; nobody is told, since the stream for
  telling failures is the one that fails.
-/

namespace RegistryProbe

/-- A stream that takes bytes, possibly only so many. -/
structure Stream where
  /-- How many bytes it still takes; `none` if it has no limit. -/
  room : Option Nat := none
  /-- The bytes it has taken. -/
  received : Bytes := []
deriving DecidableEq, Repr

namespace Stream

/-- Takes as many bytes of a piece as there is room for, and tells whether it took all. -/
def push (s : Stream) (piece : Bytes) : Stream × Bool :=
  match s.room with
  | none => ({ s with received := s.received ++ piece }, true)
  | some room =>
    ({ room := some (room - piece.length), received := s.received ++ piece.take room },
      piece.length ≤ room)

/-- Takes pieces in order until one is cut. -/
def pushAll (s : Stream) : List Bytes → Stream
  | [] => s
  | piece :: pieces =>
    match s.push piece with
    | (s, true) => s.pushAll pieces
    | (s, false) => s

end Stream

namespace Diagnostics

/-- The pieces of the line that tells a failure. -/
def failureLine (program message : String) : List Bytes :=
  [Bytes.ofText program, Bytes.ofText ": error: ", Bytes.ofText message, [0x0A]]

/-- The pieces of a body in its visible rendering, with a newline at the end. -/
def bodyDump (body : Bytes) : List Bytes :=
  let rendering := Text.Visible.escape body
  if rendering.getLast? = some 0x0A then [rendering] else [rendering, [0x0A]]

/-- Tells a failure in one line. -/
def fail (program message : String) (s : Stream) : Intent × Stream :=
  (.failed, s.pushAll (failureLine program message))

/-- Shows a body. -/
def dump (body : Bytes) (s : Stream) : Stream := s.pushAll (bodyDump body)

/-- Shows the body that belongs to an error, if there is one, and tells the error. -/
def report (program : String) (e : ProbeError) (s : Stream) : Intent × Stream :=
  match e.body? with
  | some body => fail program e.message (dump body s)
  | none => fail program e.message s

/-! ### Several steps on one stream -/

/-- A step that writes diagnostics. -/
inductive Step where
  /-- Tells a failure. -/
  | fail (message : String)
  /-- Shows a body. -/
  | dump (body : Bytes)
  /-- Reports an error. -/
  | report (e : ProbeError)
deriving DecidableEq, Repr

/-- Takes a step; showing a body alone has no intent. -/
def step (program : String) (s : Stream) : Step → Option Intent × Stream
  | .fail message =>
    let (intent, s) := fail program message s
    (some intent, s)
  | .dump body => (none, dump body s)
  | .report e =>
    let (intent, s) := report program e s
    (some intent, s)

/-- The stream after each step, with the intent that the step gave. -/
def run (program : String) (s : Stream) : List Step → List (Option Intent × Stream)
  | [] => []
  | a :: steps =>
    let (intent, s) := step program s a
    (intent, s) :: run program s steps

end Diagnostics

end RegistryProbe
