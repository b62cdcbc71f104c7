import RegistryProbe.Files.Disk
import RegistryProbe.Proofs.Files.Naming
import RegistryProbe.Proofs.Results

/-! # Following a path

  Where a path leads depends on its names alone, and whether it can be followed depends on the
  directories alone. The files on a disk play no role in either.

  - `destination` is where names lead if they can be followed.
  - `walk_eq_ok_iff` says when they can: no name is too long, and every place on the way is a
    directory.
  - `SameDirectories.parentOf_eq_ok` draws the consequence: disks with the same directories follow
    the same paths.
-/

namespace RegistryProbe.Files.Disk

variable {d e : Disk} {t u : Tree} {p q : Location} {name path : String} {names : List String}

/-! ### Where names lead -/

/-- The place that a name leads to from a place. -/
def reach (p : Location) (name : String) : Location :=
  if name = "." then p else if name = ".." then p.dropLast else p ++ [name]

/-- The place that names lead to from a place, one after the other. -/
def destination (p : Location) (names : List String) : Location := names.foldl reach p

@[simp] theorem destination_nil (p : Location) : destination p [] = p := rfl

@[simp] theorem destination_cons (p : Location) (name : String) (names : List String) :
    destination p (name :: names) = destination (reach p name) names := rfl

@[simp] theorem destination_append (p : Location) (names others : List String) :
    destination p (names ++ others) = destination (destination p names) others :=
  List.foldl_append

theorem reach_of_isProper (h : isProper name = true) (p : Location) :
    reach p name = p ++ [name] := by
  have : name ≠ "." ∧ name ≠ ".." := by simpa [isProper] using h
  simp [reach, this.1, this.2]

/-! ### Single names -/

theorem descend_eq_ok_iff :
    descend p name = .ok q ↔ name.utf8ByteSize ≤ PathText.maxName ∧ q = reach p name := by
  have hdot : (".").utf8ByteSize ≤ PathText.maxName := by decide
  have hdots : ("..").utf8ByteSize ≤ PathText.maxName := by decide
  unfold descend reach
  by_cases h₁ : name = "."
  · subst h₁
    simp [hdot, eq_comm]
  by_cases h₂ : name = ".."
  · subst h₂
    simp [hdots, eq_comm]
  by_cases h₃ : PathText.maxName < name.utf8ByteSize
  · have : ¬ name.utf8ByteSize ≤ PathText.maxName := by omega
    simp [h₁, h₂, h₃, this]
  · have : name.utf8ByteSize ≤ PathText.maxName := by omega
    simp [h₁, h₂, h₃, this, eq_comm]

theorem expectDirectory_eq_ok_iff :
    expectDirectory t p = .ok q ↔ t.look? p = some .directory ∧ q = p := by
  unfold expectDirectory
  cases t.look? p with
  | none => simp
  | some e => cases e <;> simp [eq_comm]

/-! ### The walk -/

theorem walk_nil (t : Tree) (p : Location) : walk t p [] = expectDirectory t p := by
  simp [walk]

theorem walk_cons (t : Tree) (p : Location) (name : String) (names : List String) :
    walk t p (name :: names) =
      expectDirectory t p >>= fun p => descend p name >>= fun q => walk t q names := by
  simp [walk, enter]

theorem places_cons (h : name.utf8ByteSize ≤ PathText.maxName) (p : Location)
    (names : List String) :
    places p (name :: names) = reach p name :: places (reach p name) names := by
  have : descend p name = .ok (reach p name) := descend_eq_ok_iff.2 ⟨h, rfl⟩
  simp [places, this]

/-- A walk succeeds if no name is too long and all places on the way are directories. -/
theorem walk_eq_ok_iff :
    walk t p names = .ok q ↔
      (∀ name ∈ names, name.utf8ByteSize ≤ PathText.maxName) ∧
      (∀ r ∈ p :: places p names, t.look? r = some .directory) ∧
      q = destination p names := by
  -- by induction along the names, from wherever the walk has come to
  induction names generalizing p with
  | nil => simp [walk_nil, expectDirectory_eq_ok_iff, places]
  | cons name names ih =>
    rw [walk_cons]
    simp only [ok_bind_iff, expectDirectory_eq_ok_iff, descend_eq_ok_iff, ih]
    constructor
    · intro h
      obtain ⟨_, ⟨hp, rfl⟩, _, ⟨hname, rfl⟩, hnames, hplaces, rfl⟩ := h
      refine ⟨?_, ?_, rfl⟩
      · simpa [hname] using hnames
      · rw [places_cons hname]
        intro r hr
        rcases List.mem_cons.1 hr with rfl | hr
        · exact hp
        · exact hplaces r hr
    · intro h
      -- the first name is short enough, so the places begin with where it leads
      obtain ⟨hnames, hplaces, rfl⟩ := h
      have hname := hnames name (by simp)
      rw [places_cons hname] at hplaces
      refine ⟨p, ⟨hplaces p (by simp), rfl⟩, reach p name, ⟨hname, rfl⟩, ?_, ?_, rfl⟩
      · exact fun n hn => hnames n (by simp [hn])
      · exact fun r hr => hplaces r (List.mem_cons_of_mem _ hr)

theorem destination_mem_places (h : ∀ name ∈ names, name.utf8ByteSize ≤ PathText.maxName) :
    destination p names ∈ p :: places p names := by
  induction names generalizing p with
  | nil => simp
  | cons name names ih =>
    have hname := h name (by simp)
    rw [places_cons hname, destination_cons]
    exact List.mem_cons_of_mem _ (ih fun n hn => h n (by simp [hn]))

/-- A walk ends in a directory. -/
theorem look?_of_walk (h : walk t p names = .ok q) : t.look? q = some .directory := by
  obtain ⟨hnames, hplaces, rfl⟩ := walk_eq_ok_iff.1 h
  exact hplaces _ (destination_mem_places hnames)

/-! ### The directory of a path -/

theorem parentOf_eq_ok_iff :
    d.parentOf path = .ok q ↔
      checkPath path = .ok () ∧
      walk d.tree (d.startOf path) (PathText.names path).dropLast = .ok q := by
  unfold parentOf
  rw [ok_bind_iff]
  constructor
  · intro h'
    obtain ⟨⟨⟩, h⟩ := h'
    exact h
  · exact fun h => ⟨(), h⟩

theorem look?_of_parentOf (h : d.parentOf path = .ok q) : d.tree.look? q = some .directory :=
  look?_of_walk (parentOf_eq_ok_iff.1 h).2

/-- Two disks have the same directories, among them the one where relative paths start. -/
structure SameDirectories (d e : Disk) : Prop where
  /-- The working directory is the same. -/
  home_eq : e.home = d.home
  /-- The same places are directories. -/
  directory_iff : ∀ q, e.tree.look? q = some .directory ↔ d.tree.look? q = some .directory

namespace SameDirectories

theorem startOf_eq (h : SameDirectories d e) (path : String) : e.startOf path = d.startOf path := by
  simp [startOf, h.home_eq]

theorem parentOf_eq_ok (h : SameDirectories d e) (path : String) (q : Location) :
    e.parentOf path = .ok q ↔ d.parentOf path = .ok q := by
  simp only [parentOf_eq_ok_iff, walk_eq_ok_iff, h.startOf_eq, h.directory_iff]

end SameDirectories

end RegistryProbe.Files.Disk
