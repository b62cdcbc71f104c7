/-! # How the program is about to end -/

namespace RegistryProbe

/-- How the program, or one scope of its work, is about to end. -/
inductive Intent where
  /-- The work is done, and this was marked on purpose. -/
  | completed
  /-- The work ended before it was marked as done. -/
  | aborted
  /-- A failure was reported. -/
  | failed
deriving DecidableEq, Repr

namespace Intent

/-- The exit code for an intent. -/
def code : Intent → UInt8
  | completed => 0
  | aborted => 8
  | failed => 12

/-- The name of an intent. -/
def name : Intent → String
  | completed => "Completed"
  | aborted => "Aborted"
  | failed => "Failed"

/-- The status that a process ends with. -/
def exitStatus (i : Intent) : UInt32 := i.code.toUInt32

end Intent

end RegistryProbe
