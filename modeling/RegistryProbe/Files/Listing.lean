import RegistryProbe.Files.Disk

/-! # Listing a directory

  Everything below a directory, each with its path from there, in the order of the paths.
-/

namespace RegistryProbe.Files

/-- Everything in a directory and below it, each with its names from `base` on. -/
def Tree.contents (base : Location) : Tree → List (Location × Entry)
  | [] => []
  | (name, .file b) :: rest => (base ++ [name], .file b) :: contents base rest
  | (name, .directory children) :: rest =>
    (base ++ [name], .directory) :: (contents (base ++ [name]) children ++ contents base rest)

/-- Everything below a place, by the text of its path from there, in the order of these texts. -/
def Tree.listing (t : Tree) (p : Location) : List (String × Entry) :=
  match t.node? p with
  | some (.directory children) =>
    ((Tree.contents [] children).map fun m => ("/".intercalate m.1, m.2)).mergeSort
      fun a b => a.1 ≤ b.1
  | _ => []

/-- Everything below the directory at a path; nothing if none stands there. -/
def Disk.listing (d : Disk) (path : String) : List (String × Entry) :=
  match d.locate path with
  | .ok p => d.tree.listing p
  | .error _ => []

end RegistryProbe.Files
