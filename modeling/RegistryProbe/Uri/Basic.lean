/-! # URIs

  A URI as HTTP uses it, in one of three forms: with scheme and authority, an authority alone, or a
  path alone. A fragment is no part of it.

  `Uri.text` writes a URI. The schemes `http` and `https` are written in lower case, and the path of
  a URI with a scheme is never empty.
-/

namespace RegistryProbe

/-- A URI. -/
structure Uri where
  /-- The scheme, if there is one. -/
  scheme : Option String
  /-- The authority; empty if there is none. -/
  authority : String
  /-- The path as it was given. -/
  path : String
  /-- What follows the question mark, if there is one. -/
  query : Option String
deriving DecidableEq, Repr

/-- Why a text is no URI. -/
inductive Uri.Fault where
  /-- It is empty. -/
  | empty
  /-- It is too long. -/
  | tooLong
  /-- The parts do not fit together. -/
  | badFormat
  /-- A character is not allowed at its place. -/
  | badCharacter
  /-- The authority is malformed. -/
  | badAuthority
  /-- The scheme is too long. -/
  | schemeTooLong
deriving DecidableEq, Repr

namespace Uri

/-- The text of a fault. -/
def Fault.message : Fault → String
  | empty => "empty string"
  | tooLong => "uri too long"
  | badFormat => "invalid format"
  | badCharacter => "invalid uri character"
  | badAuthority => "invalid authority"
  | schemeTooLong => "scheme too long"

/-- The path that a URI names: with a scheme, an empty path is the root. -/
def effectivePath (u : Uri) : String :=
  if u.scheme.isSome ∧ u.path = "" then "/" else u.path

/-- The text of a URI. -/
def text (u : Uri) : String :=
  (u.scheme.map (· ++ "://")).getD "" ++ u.authority ++ u.effectivePath
    ++ (u.query.map ("?" ++ ·)).getD ""

end Uri

end RegistryProbe
