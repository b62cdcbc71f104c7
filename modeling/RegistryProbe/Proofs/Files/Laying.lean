import RegistryProbe.Proofs.Files.Placing

/-! # Files laid over a disk

  Files that are written one after the other lie over a disk: each place shows what was written
  there last, and all other places show what stood there before. No directory comes or goes.

  - `Lays` says this of a list of files, the last one written in front. Writing one file is of this
    kind, and so is one list after the other: `lays_of_write`, `Lays.trans`.
  - Lists that have no place in common may be laid in either order: `Lays.sameFiles`.
  - Whether and where a file can be written depends on the directories, once the path leads into one
    of them: `SameDirectories.fileTarget_eq`.
-/

namespace RegistryProbe.Files.Disk

variable {d d' e e' f : Disk} {p q parent : Location} {path suffix : String} {content : Bytes}
  {files more : List (Location × Bytes)}

/-! ### The same directories -/

namespace SameDirectories

theorem refl (d : Disk) : SameDirectories d d := ⟨rfl, fun _ => Iff.rfl⟩

theorem trans (h : SameDirectories d e) (h' : SameDirectories e f) : SameDirectories d f :=
  ⟨h'.home_eq.trans h.home_eq, fun q => (h'.directory_iff q).trans (h.directory_iff q)⟩

/-- In a directory that stands, a file is written at the same place or refused for the same
    reason. -/
theorem fileTarget_eq (h : SameDirectories d e) (hparent : d.parentOf path = .ok parent) :
    e.fileTarget path = d.fileTarget path := by
  have hparent' := (h.parentOf_eq_ok path parent).2 hparent
  have hfind (slash : Bool) (name : String) :
      findFile e.tree parent slash name = findFile d.tree parent slash name := by
    simp only [findFile, h.directory_iff]
  rw [fileTarget, fileTarget, hparent, hparent']
  cases (PathText.names path).getLast? with
  | none => rfl
  | some name => exact hfind _ name

/-- The same is so of a file beside one that can be written. -/
theorem fileTarget_append_eq (h : SameDirectories d e) (hsuffix : '/' ∉ suffix.toList)
    (hp : d.fileTarget path = .ok p) :
    e.fileTarget (path ++ suffix) = d.fileTarget (path ++ suffix) := by
  obtain ⟨parent, name, hparent, hname, hslash, -⟩ := fileTarget_eq_ok_iff.1 hp
  cases hcheck : checkPath (path ++ suffix) with
  | error fault => simp [fileTarget, parentOf, hcheck, bind, Except.bind]
  | ok _ =>
    have hpath : path ≠ "" := by
      intro hempty
      subst hempty
      simp [PathText.names] at hname
    have hstart : d.startOf (path ++ suffix) = d.startOf path := by
      simp [startOf, PathText.isAbsolute_append hpath]
    have hsame : d.parentOf (path ++ suffix) = .ok parent := by
      rw [parentOf_eq_ok_iff, PathText.names_append_suffix hname hslash hsuffix,
        List.dropLast_concat, hstart]
      exact ⟨hcheck, (parentOf_eq_ok_iff.1 hparent).2⟩
    exact h.fileTarget_eq hsame

end SameDirectories

theorem write_of_fileTarget (hp : d.fileTarget path = .ok p) (content : Bytes) :
    d.write path content = .ok { d with tree := d.tree.put (.file content) p } :=
  write_eq_ok_iff.2 ⟨p, hp, rfl⟩

theorem write_of_fault {fault : Fault} (h : d.fileTarget path = .error fault) (content : Bytes) :
    d.write path content = .error fault := by
  rw [write, h]
  rfl

/-! ### Laying files -/

/-- From `d` the disk has come to `e` by files that were written, the last one in front. -/
structure Lays (d : Disk) (files : List (Location × Bytes)) (e : Disk) : Prop where
  directories : SameDirectories d e
  look?_eq : ∀ q, e.tree.look? q = ((files.lookup q).map Entry.file).or (d.tree.look? q)

theorem lays_nil (d : Disk) : Lays d [] d := ⟨.refl d, fun _ => rfl⟩

theorem lays_of_write (hp : d.fileTarget path = .ok p) (h : d.write path content = .ok e) :
    Lays d [(p, content)] e := by
  refine ⟨sameDirectories_of_write h, fun q => ?_⟩
  rw [look?_of_write hp h, List.lookup_cons]
  by_cases hq : q = p
  · simp [hq]
  · simp [hq, beq_eq_false_iff_ne.2 hq]

namespace Lays

theorem trans (h : Lays d files e) (h' : Lays e more f) : Lays d (more ++ files) f := by
  refine ⟨h.directories.trans h'.directories, fun q => ?_⟩
  rw [h'.look?_eq, h.look?_eq, List.lookup_append]
  cases more.lookup q <;> rfl

/-- A place where no file is laid shows what it showed before. -/
theorem look?_of_not_mem (h : Lays d files e) (hq : ∀ file ∈ files, q ≠ file.1) :
    e.tree.look? q = d.tree.look? q := by
  have hnone : files.lookup q = none := List.lookup_eq_none_iff.2 fun file hfile => by
    simpa using hq file hfile
  rw [h.look?_eq, hnone]
  rfl

/-- A path under which something stands leads there still, if no file is laid at this place. -/
theorem look?_path_eq (h : Lays d files e) (hp : d.locate path = .ok p)
    (hfree : ∀ file ∈ files, p ≠ file.1) : e.look? path = d.look? path := by
  have hsame := h.look?_of_not_mem hfree
  have hlocate : e.locate path = .ok p := by
    obtain ⟨parent, hparent, hlast⟩ := locate_eq_ok_iff.1 hp
    rw [← hsame] at hlast
    exact locate_eq_ok_iff.2 ⟨parent, (h.directories.parentOf_eq_ok path parent).2 hparent, hlast⟩
  rw [look?, look?, hp, hlocate]
  exact hsame

end Lays

/-! ### The same files -/

/-- Two disks hold the same files and directories. -/
structure SameFiles (d e : Disk) : Prop where
  home_eq : e.home = d.home
  look?_eq : ∀ q, e.tree.look? q = d.tree.look? q

/-- Files are laid in either order, if no place is in both lists. -/
theorem Lays.sameFiles (hfiles : Lays d files e) (hmore : Lays e more f) (hmore' : Lays d more d')
    (hfiles' : Lays d' files e') (hapart : ∀ file ∈ files, ∀ other ∈ more, file.1 ≠ other.1) :
    SameFiles f e' := by
  refine ⟨?_, fun q => ?_⟩
  · rw [hfiles'.directories.home_eq, hmore'.directories.home_eq, hmore.directories.home_eq,
      hfiles.directories.home_eq]
  · rw [hfiles'.look?_eq, hmore'.look?_eq, hmore.look?_eq, hfiles.look?_eq]
    cases hq : files.lookup q with
    | none => rfl
    | some content =>
      -- the place is in the first list, so it is not in the second
      obtain ⟨front, back, rfl, -⟩ := List.lookup_eq_some_iff.1 hq
      have hnone : more.lookup q = none := List.lookup_eq_none_iff.2 fun other hother => by
        simpa using hapart (q, content) (by simp) other hother
      rw [hnone]
      rfl

end RegistryProbe.Files.Disk
