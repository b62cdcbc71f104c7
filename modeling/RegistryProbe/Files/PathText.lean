import RegistryProbe.Files.Tree
import RegistryProbe.Text.Pieces

/-! # Path texts

  A path is given as text: names with slashes between them. A path that begins with a slash starts
  at the root, any other one at the working directory. Slashes in a row count as one.
-/

namespace RegistryProbe.Files.PathText

/-- The names in a path. -/
def names (path : String) : List String :=
  (Text.parts '/' path.toList).map String.ofList

/-- Whether a path starts at the root. -/
def isAbsolute (path : String) : Bool := path.toList.head? = some '/'

/-- Whether a slash stands at the end of a path. -/
def endsInSlash (path : String) : Bool := path.toList.getLast? = some '/'

/-- The path `tail` as seen from `base`: an absolute tail stands for itself. -/
def join (base tail : String) : String :=
  if isAbsolute tail then tail
  else if base = "" ∨ endsInSlash base then base ++ tail
  else base ++ "/" ++ tail

/-- The absolute path of a place. -/
def ofLocation (p : Location) : String := "/" ++ "/".intercalate p

/-- The paths of all places on the way along an absolute path, its end included. -/
def along (path : String) : List String :=
  let names := names path
  (List.range names.length).map fun i => ofLocation (names.take (i + 1))

/-- The longest name, in bytes. -/
def maxName : Nat := 255

/-- Paths are shorter than this many bytes. -/
def maxPath : Nat := 4096

end RegistryProbe.Files.PathText
