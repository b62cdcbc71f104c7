import RegistryProbe.Files.Listing
import RegistryProbe.Proofs.Files.Nesting
import RegistryProbe.Proofs.Files.Removing

/-! # A directory that holds files

  A directory is made at a path and files are written into it, one after the other.

  - `Apart` says that a disk is what it was before the directory was made, but for this directory
    and what is in it. Whatever is written into the directory keeps it apart: `Apart.write`. When
    the directory is removed, the disk is as it was before: `Apart.removeDirectory`.
  - `Holds` says which files are in the directory. A file with a new name joins them:
    `Holds.write`. They are what the directory lists: `Holds.listing_eq`.
-/

namespace RegistryProbe.Files.Disk

variable {before d e : Disk} {p q : Location} {path name : String} {content : Bytes}
  {files : List (String × Bytes)}

/-! ### Names in a directory -/

/-- A text that is the name of a file in the directory from which it is seen. -/
structure IsName (name : String) : Prop where
  names_eq : PathText.names name = [name]
  relative : PathText.isAbsolute name = false
  proper : isProper name = true

/-- A text that neither holds a slash nor is one of the special names. -/
theorem isName_of_not_mem (hslash : '/' ∉ name.toList) (hne : name.toList ≠ [])
    (hproper : isProper name = true) : IsName name where
  names_eq := by simp [PathText.names, Text.parts_of_not_mem hslash hne]
  relative := by
    have hhead : name.toList.head? ≠ some '/' := fun h => hslash (List.mem_of_head? h)
    simp [PathText.isAbsolute, hhead]
  proper := hproper

/-- The file of a name is written in the directory, under this name. -/
theorem eq_of_fileTarget_join (habsolute : PathText.isAbsolute path = true) (hname : IsName name)
    (h : d.fileTarget (PathText.join path name) = .ok q) : q = placeOf path ++ [name] := by
  obtain ⟨parent, last, hparent, hlast, -, -, -, rfl, -⟩ := fileTarget_eq_ok_iff.1 h
  have hnames : PathText.names (PathText.join path name) = PathText.names path ++ [name] := by
    rw [PathText.names_join hname.relative, hname.names_eq]
  -- the names of the path lead to its place, and one more name is left
  rw [eq_destination_of_parentOf (PathText.isAbsolute_join habsolute) hparent, hnames,
    List.dropLast_concat]
  rw [hnames, List.getLast?_concat] at hlast
  obtain rfl := Option.some.inj hlast
  rfl

/-- Whether a path leads to a directory depends on the directories alone. -/
theorem SameDirectories.look?_path_iff (h : SameDirectories d e) (path : String) :
    e.look? path = some .directory ↔ d.look? path = some .directory := by
  have hlocate (r : Location) : e.locate path = .ok r ∧ e.tree.look? r = some .directory ↔
      d.locate path = .ok r ∧ d.tree.look? r = some .directory := by
    rw [h.directory_iff]
    refine and_congr_left fun hdir => ?_
    have hdir' := (h.directory_iff r).2 hdir
    simp only [locate_eq_ok_iff, h.parentOf_eq_ok, hdir, hdir', true_or]
  simp only [look?_eq_some_iff, hlocate]

/-! ### Apart from the directory -/

/-- A disk is what it was before a directory was made at a path, but for this directory and what is
    in it. -/
structure Apart (path : String) (before d : Disk) : Prop where
  home_eq : d.home = before.home
  stands : d.look? path = some .directory
  pruned : d.tree.prune (placeOf path) = before.tree

theorem placeOf_of_directoryTarget (habsolute : PathText.isAbsolute path = true)
    (hp : d.directoryTarget path = .ok p) :
    p = placeOf path ∧ placeOf path ≠ [] ∧
      d.tree.look? (placeOf path).dropLast = some .directory ∧
      d.tree.look? (placeOf path) = none := by
  obtain rfl := eq_placeOf_of_directoryTarget habsolute hp
  obtain ⟨parent, name, hparent, -, -, -, hplace, hnone⟩ := directoryTarget_eq_ok_iff.1 hp
  have hdir := look?_of_parentOf hparent
  refine ⟨rfl, by simp [hplace], ?_, hnone⟩
  rw [hplace, List.dropLast_concat]
  exact hdir

theorem apart_of_makeDirectory (habsolute : PathText.isAbsolute path = true)
    (h : d.makeDirectory path = .ok e) : Apart path d e := by
  have hstands := (made_of_makeDirectory habsolute h).stands
  obtain ⟨p, hp, rfl⟩ := makeDirectory_eq_ok_iff.1 h
  obtain ⟨rfl, hne, hdir, hnone⟩ := placeOf_of_directoryTarget habsolute hp
  exact ⟨rfl, hstands, Tree.prune_put hne hdir hnone _⟩

theorem Apart.write (hsite : IsSite path) (hname : IsName name) (h : Apart path before d)
    (hwrite : d.write (PathText.join path name) content = .ok e) : Apart path before e := by
  refine ⟨(home_of_write hwrite).trans h.home_eq,
    ((sameDirectories_of_write hwrite).look?_path_iff path).2 h.stands, ?_⟩
  obtain ⟨q, hq, rfl⟩ := write_eq_ok_iff.1 hwrite
  obtain rfl := eq_of_fileTarget_join hsite.absolute hname hq
  show (d.tree.put _ (placeOf path ++ [name])).prune (placeOf path) = before.tree
  rw [Tree.prune_put_below (placeOf_ne_nil hsite) (by simp), h.pruned]

/-- When the directory goes, the disk is the one before it was made. -/
theorem Apart.removeDirectory (hsite : IsSite path) (h : Apart path before d) :
    (d.removeDirectory path).1 = before := by
  rw [removeDirectory_of_isSite hsite h.stands, h.pruned, h.home_eq]

/-! ### The files in the directory -/

/-- The directory at a path holds these files and nothing else, and their paths lead to them. -/
structure Holds (path : String) (before : Disk) (files : List (String × Bytes)) (d : Disk) : Prop
    extends Apart path before d where
  inside : d.tree.node? (placeOf path) =
    some (.directory (files.map fun f => (f.1, .file f.2)))
  located : ∀ f ∈ files, d.locate (PathText.join path f.1) = .ok (placeOf path ++ [f.1])
  content : ∀ f ∈ files, d.tree.look? (placeOf path ++ [f.1]) = some (.file f.2)

theorem Holds.look?_path (h : Holds path before files d) {f : String × Bytes} (hf : f ∈ files) :
    d.look? (PathText.join path f.1) = some (.file f.2) :=
  look?_eq_some_iff.2 ⟨_, h.located f hf, h.content f hf⟩

/-- A new directory holds no files. -/
theorem holds_of_makeDirectory (habsolute : PathText.isAbsolute path = true)
    (h : d.makeDirectory path = .ok e) : Holds path d [] e := by
  refine ⟨apart_of_makeDirectory habsolute h, ?_, by simp, by simp⟩
  obtain ⟨p, hp, rfl⟩ := makeDirectory_eq_ok_iff.1 h
  obtain ⟨rfl, hne, hdir, -⟩ := placeOf_of_directoryTarget habsolute hp
  exact Tree.node?_put hne hdir []

/-- A file with a new name joins the files that are there. -/
theorem Holds.write (hsite : IsSite path) (hname : IsName name) (h : Holds path before files d)
    (hnew : name ∉ files.map Prod.fst)
    (hwrite : d.write (PathText.join path name) content = .ok e) :
    Holds path before (files ++ [(name, content)]) e := by
  have hapart := h.toApart.write hsite hname hwrite
  obtain ⟨q, hq, he⟩ := write_eq_ok_iff.1 hwrite
  obtain rfl := eq_of_fileTarget_join hsite.absolute hname hq
  -- the files that are there have other names, and so other places
  have hother : ∀ f ∈ files, placeOf path ++ [f.1] ≠ placeOf path ++ [name] := by
    intro f hf heq
    have hf' : f.1 = name := by simpa using heq
    exact hnew (hf' ▸ List.mem_map_of_mem hf)
  refine ⟨hapart, ?_, ?_, ?_⟩
  · have hlookup : (files.map fun f => (f.1, Node.file f.2)).lookup name = none := by
      rw [List.lookup_eq_none_iff]
      intro m hm
      obtain ⟨f, hf, rfl⟩ := List.mem_map.1 hm
      have hne : name ≠ f.1 := fun heq => hnew (heq ▸ List.mem_map_of_mem hf)
      simpa using hne
    rw [he]
    show Tree.node? (d.tree.put _ (placeOf path ++ [name])) (placeOf path) = _
    rw [Tree.node?_put_child h.inside, Tree.assign_of_lookup_eq_none hlookup, List.map_append]
    rfl
  · intro f hf
    rcases List.mem_append.1 hf with hf | hf
    · exact locate_of_write_other hq hwrite (h.located f hf) (hother f hf)
    · obtain rfl := List.mem_singleton.1 hf
      exact locate_of_write hq hwrite
  · intro f hf
    rw [look?_of_write hq hwrite]
    rcases List.mem_append.1 hf with hf | hf
    · rw [if_neg (hother f hf), h.content f hf]
    · obtain rfl := List.mem_singleton.1 hf
      rw [if_pos rfl]

/-- Files without directories among them are listed under their own names. -/
theorem contents_files (files : List (String × Bytes)) :
    Tree.contents [] (files.map fun f => (f.1, .file f.2)) =
      files.map fun f => ([f.1], .file f.2) := by
  induction files with
  | nil => rw [List.map_nil, Tree.contents, List.map_nil]
  | cons f files ih =>
    rw [List.map_cons, Tree.contents, ih]
    rfl

/-- The directory lists its files in the order of their names. -/
theorem Holds.listing_eq (habsolute : PathText.isAbsolute path = true)
    (h : Holds path before files d) :
    d.listing path =
      (files.map fun f => (f.1, Entry.file f.2)).mergeSort fun a b => a.1 ≤ b.1 := by
  obtain ⟨p, hp, -⟩ := look?_eq_some_iff.1 h.stands
  obtain rfl := eq_placeOf_of_locate habsolute hp
  have hone (name : String) : "/".intercalate [name] = name := by simp
  rw [listing, hp]
  dsimp only
  rw [Tree.listing, h.inside]
  dsimp only
  rw [contents_files, List.map_map]
  simp only [Function.comp_def, hone]

end RegistryProbe.Files.Disk
