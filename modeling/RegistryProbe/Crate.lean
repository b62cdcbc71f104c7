import RegistryProbe.Json.Basic

/-! # Crates

  A crate as the registry describes it: its name and its greatest version.
-/

namespace RegistryProbe

/-- A crate in the registry. -/
structure Crate where
  /-- The name. -/
  name : String
  /-- The greatest published version. -/
  maxVersion : String
deriving DecidableEq, Repr

namespace Crate

/-- Reads a crate: an object with both members, or the array of the two. -/
def ofJson? : Json → Option Crate
  | .object members => do
    let name ← (members.lookup "name").bind Json.text?
    let maxVersion ← (members.lookup "max_version").bind Json.text?
    return ⟨name, maxVersion⟩
  | .array [.text name, .text maxVersion] => some ⟨name, maxVersion⟩
  | _ => none

/-- Writes a crate, the name first. -/
def toJson (c : Crate) : Json :=
  .object [("name", .text c.name), ("max_version", .text c.maxVersion)]

@[simp] theorem ofJson?_toJson (c : Crate) : ofJson? c.toJson = some c := rfl

end Crate

end RegistryProbe
