/-! # Why a file operation fails -/

namespace RegistryProbe.Files

/-- The cause of a failed file operation. -/
inductive Fault where
  /-- Nothing stands at the path, or a directory on the way to it is missing. -/
  | missing
  /-- The name to be created is taken. -/
  | alreadyExists
  /-- A file stands where the path needs a directory. -/
  | notDirectory
  /-- A directory stands where a file is to be written. -/
  | isDirectory
  /-- The last name of the path cannot be removed. -/
  | invalidArgument
  /-- A name or the whole path is longer than allowed. -/
  | nameTooLong
  /-- The path holds a NUL character. -/
  | nulInName
  /-- Every name that was tried for a new directory is taken. -/
  | namesExhausted
deriving DecidableEq, Repr

/-- The text of a cause, with the number of the system's error where there is one. -/
def Fault.message : Fault → String
  | missing => "No such file or directory (os error 2)"
  | alreadyExists => "File exists (os error 17)"
  | notDirectory => "Not a directory (os error 20)"
  | isDirectory => "Is a directory (os error 21)"
  | invalidArgument => "Invalid argument (os error 22)"
  | nameTooLong => "File name too long (os error 36)"
  | nulInName => "file name contained an unexpected NUL byte"
  | namesExhausted => "too many temporary files exist"

end RegistryProbe.Files
