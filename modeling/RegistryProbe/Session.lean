import RegistryProbe.Diagnostics
import RegistryProbe.Files.Change
import RegistryProbe.Files.Listing
import RegistryProbe.Journal

/-! # Sessions

  A session is all that a run of the program can change: the files, the diagnostic stream and the
  journal. It also supplies the random parts of the names of workspaces, as a sequence of tags of
  which a session takes one after the other.
-/

namespace RegistryProbe

/-- The random part of a workspace's name. -/
structure Tag where
  /-- Its letters and digits. -/
  text : String
  /-- There are six. -/
  length_eq : text.length = 6
  /-- They are ASCII. -/
  all_alphanum : text.toList.all Char.isAlphanum = true

/-- The tag made of the last six decimal digits of a number. -/
def Tag.numbered (n : Nat) : Tag where
  text := String.ofList ([100000, 10000, 1000, 100, 10, 1].map fun k =>
    Text.Decimal.digit (n / k % 10))
  length_eq := by simp
  all_alphanum := by
    have h : ∀ m : Fin 10, (Text.Decimal.digit m).isAlphanum = true := by decide
    have h (k : Nat) : (Text.Decimal.digit (k % 10)).isAlphanum = true :=
      h ⟨k % 10, Nat.mod_lt _ (by decide)⟩
    simp [h]

/-- The state of a run. -/
structure Session where
  /-- The files. -/
  disk : Files.Disk
  /-- The directory for temporary files. -/
  temp : String
  /-- The tags in the order in which they are drawn. -/
  tags : Nat → Tag
  /-- How many tags have been drawn. -/
  drawn : Nat
  /-- The stream for diagnostics. -/
  diagnostics : Stream
  /-- What has happened, the earliest first. -/
  journal : List Event

namespace Session

/-- A session that has done nothing yet. Its files are what some changes make of a disk that holds
    nothing but the working directory `home`. -/
def start (home temp : String) (changes : List Files.Change) (tags : Nat → Tag) : Session where
  disk :=
    let empty : Files.Disk := ((⟨[], []⟩ : Files.Disk).makeDirectories home).1
    changes.foldl (fun d c => (c.apply d).1) { empty with home := Files.PathText.names home }
  temp := temp
  tags := tags
  drawn := 0
  diagnostics := {}
  journal := []

/-- Enters an event into the journal. -/
def note (s : Session) (e : Event) : Session := { s with journal := s.journal ++ [e] }

/-- The requests that have been sent, the earliest first. -/
def sent (s : Session) : List Request := s.journal.filterMap Event.sent?

/-- The lines that have been printed, the earliest first. -/
def printed (s : Session) : List String := s.journal.filterMap Event.printed?

/-- The errors that have been reported, the earliest first. -/
def reports (s : Session) : List ProbeError := s.journal.filterMap Event.reported?

/-- The observations that have been made, the earliest first. -/
def trace (s : Session) : List Observation := s.journal.filterMap Event.observed?

/-- Tells an error on the diagnostic stream, which makes the program fail. -/
def report (program : String) (e : ProbeError) (s : Session) : Intent × Session :=
  let (intent, stream) := Diagnostics.report program e s.diagnostics
  (intent, { s with diagnostics := stream }.note (.reported program e))

/-- Makes a change on the disk and tells whether it succeeded. -/
def change (c : Files.Change) (s : Session) : Bool × Session :=
  let (disk, result) := c.apply s.disk
  (result.isOk, { s with disk := disk })

/-- Prints a line. -/
def print (line : String) (s : Session) : Session := s.note (.printed line)

/-! ### Laws

    An entry changes nothing but the journal, and each reading of the journal gains what it reads
    off the entry. -/

@[simp] theorem disk_note (s : Session) (e : Event) : (s.note e).disk = s.disk := rfl

@[simp] theorem temp_note (s : Session) (e : Event) : (s.note e).temp = s.temp := rfl

@[simp] theorem tags_note (s : Session) (e : Event) : (s.note e).tags = s.tags := rfl

@[simp] theorem drawn_note (s : Session) (e : Event) : (s.note e).drawn = s.drawn := rfl

@[simp] theorem diagnostics_note (s : Session) (e : Event) :
    (s.note e).diagnostics = s.diagnostics := rfl

/-- What is read off a journal with one more entry. -/
theorem filterMap_journal_note {α : Type} (read? : Event → Option α) (s : Session) (e : Event) :
    (s.note e).journal.filterMap read? = s.journal.filterMap read? ++ (read? e).toList := by
  show (s.journal ++ [e]).filterMap read? = _
  rw [List.filterMap_append]
  cases h : read? e with
  | none => simp [h]
  | some a => simp [h]

@[simp] theorem sent_note (s : Session) (e : Event) :
    (s.note e).sent = s.sent ++ e.sent?.toList :=
  filterMap_journal_note Event.sent? s e

@[simp] theorem printed_note (s : Session) (e : Event) :
    (s.note e).printed = s.printed ++ e.printed?.toList :=
  filterMap_journal_note Event.printed? s e

@[simp] theorem reports_note (s : Session) (e : Event) :
    (s.note e).reports = s.reports ++ e.reported?.toList :=
  filterMap_journal_note Event.reported? s e

@[simp] theorem trace_note (s : Session) (e : Event) :
    (s.note e).trace = s.trace ++ e.observed?.toList :=
  filterMap_journal_note Event.observed? s e

end Session

end RegistryProbe
