import RegistryProbe.Proofs.Files.Walk

/-! # What writing a file changes

  A file is written under the last name of a path, in the directory that the other names lead to.

  - `fileTarget_eq_ok_iff` says when a file can be written and where it stands then.
  - Writing changes what stands at this one place: `look?_of_write`.
  - No directory comes or goes, so every path is followed as before: `sameDirectories_of_write`.
  - The path that was written leads to the file: `look?_path_of_write`.
-/

namespace RegistryProbe.Files.Disk

variable {d e : Disk} {p q parent : Location} {name path other : String} {content : Bytes}

/-! ### The place of a file -/

theorem findFile_eq_ok_iff {t : Tree} {slash : Bool} :
    findFile t parent slash name = .ok p ↔
      slash = false ∧ isProper name = true ∧ name.utf8ByteSize ≤ PathText.maxName ∧
      p = parent ++ [name] ∧ t.look? p ≠ some .directory := by
  unfold findFile
  cases slash with
  | true => simp
  | false =>
    cases hproper : isProper name with
    | false => simp
    | true =>
      simp only [Bool.not_true, Bool.or_self, Bool.false_eq_true, if_false, ok_bind_iff,
        descend_eq_ok_iff, reach_of_isProper hproper, true_and]
      constructor
      · intro h'
        obtain ⟨_, ⟨hname, rfl⟩, h⟩ := h'
        split at h
        · simp at h
        · next hne =>
          cases h
          exact ⟨hname, rfl, hne⟩
      · intro h'
        obtain ⟨hname, rfl, hne⟩ := h'
        exact ⟨_, ⟨hname, rfl⟩, if_neg hne⟩

/-- Where a file is written: under the last name, which neither is special nor asks for a directory,
    and not in place of a directory. -/
theorem fileTarget_eq_ok_iff :
    d.fileTarget path = .ok p ↔
      ∃ parent name, d.parentOf path = .ok parent ∧
        (PathText.names path).getLast? = some name ∧ PathText.endsInSlash path = false ∧
        isProper name = true ∧ name.utf8ByteSize ≤ PathText.maxName ∧
        p = parent ++ [name] ∧ d.tree.look? p ≠ some .directory := by
  unfold fileTarget
  rw [ok_bind_iff]
  constructor
  · intro h'
    obtain ⟨parent, hparent, h⟩ := h'
    split at h
    · simp at h
    · next name hname =>
      obtain ⟨hslash, hrest⟩ := findFile_eq_ok_iff.1 h
      exact ⟨parent, name, hparent, hname, hslash, hrest⟩
  · intro h'
    obtain ⟨parent, name, hparent, hname, hrest⟩ := h'
    refine ⟨parent, hparent, ?_⟩
    rw [hname]
    exact findFile_eq_ok_iff.2 hrest

theorem write_eq_ok_iff :
    d.write path content = .ok e ↔
      ∃ p, d.fileTarget path = .ok p ∧ e = { d with tree := d.tree.put (.file content) p } := by
  unfold write
  rw [ok_bind_iff]
  simp only [pure, Except.pure, Except.ok.injEq, eq_comm]

/-! ### What stands where afterwards -/

/-- Writing a file changes what stands at its place and nowhere else. -/
theorem look?_of_write (hp : d.fileTarget path = .ok p) (h : d.write path content = .ok e)
    (q : Location) :
    e.tree.look? q = if q = p then some (.file content) else d.tree.look? q := by
  obtain ⟨_, hp', rfl⟩ := write_eq_ok_iff.1 h
  obtain rfl : p = _ := Except.ok.inj (hp.symm.trans hp')
  obtain ⟨parent, name, hparent, -, -, -, -, rfl, hfile⟩ := fileTarget_eq_ok_iff.1 hp
  refine Tree.look?_put_file (by simp) content ?_ hfile q
  simpa using look?_of_parentOf hparent

theorem home_of_write (h : d.write path content = .ok e) : e.home = d.home := by
  obtain ⟨_, -, rfl⟩ := write_eq_ok_iff.1 h
  rfl

/-- Writing a file makes no directory and removes none. -/
theorem sameDirectories_of_write (h : d.write path content = .ok e) : SameDirectories d e := by
  obtain ⟨p, hp, -⟩ := write_eq_ok_iff.1 h
  refine ⟨home_of_write h, fun q => ?_⟩
  rw [look?_of_write hp h]
  by_cases hq : q = p
  · obtain ⟨_, _, -, -, -, -, -, -, hfile⟩ := fileTarget_eq_ok_iff.1 hp
    simp [hq, hfile]
  · simp [hq]

/-- The place of a file depends on the directories alone. -/
theorem SameDirectories.fileTarget_eq_ok (h : SameDirectories d e) (path : String)
    (p : Location) : e.fileTarget path = .ok p ↔ d.fileTarget path = .ok p := by
  simp only [fileTarget_eq_ok_iff, h.parentOf_eq_ok, ne_eq, h.directory_iff]

/-! ### Looking a path up -/

theorem find_eq_ok_iff {t : Tree} {slash : Bool} :
    find t parent slash name = .ok p ↔
      name.utf8ByteSize ≤ PathText.maxName ∧ p = reach parent name ∧
      (t.look? p = some .directory ∨ slash = false ∧ ∃ b, t.look? p = some (.file b)) := by
  simp only [find, ok_bind_iff, descend_eq_ok_iff]
  constructor
  · intro h'
    obtain ⟨_, ⟨hname, rfl⟩, h⟩ := h'
    split at h
    · simp at h
    · next b hb =>
      cases slash with
      | true => simp at h
      | false =>
        cases h
        exact ⟨hname, rfl, .inr ⟨rfl, b, hb⟩⟩
    · next hdir =>
      cases h
      exact ⟨hname, rfl, .inl hdir⟩
  · intro h'
    obtain ⟨hname, rfl, h⟩ := h'
    refine ⟨_, ⟨hname, rfl⟩, ?_⟩
    rcases h with hdir | ⟨rfl, b, hb⟩
    · simp [hdir]
    · simp [hb]

/-- Where a path leads: to the directory of its last name if there is no such name, otherwise to
    what stands under that name. -/
theorem locate_eq_ok_iff :
    d.locate path = .ok p ↔
      ∃ parent, d.parentOf path = .ok parent ∧
        ((PathText.names path).getLast? = none ∧ p = parent ∨
          ∃ name, (PathText.names path).getLast? = some name ∧
            name.utf8ByteSize ≤ PathText.maxName ∧ p = reach parent name ∧
            (d.tree.look? p = some .directory ∨
              PathText.endsInSlash path = false ∧ ∃ b, d.tree.look? p = some (.file b))) := by
  unfold locate
  rw [ok_bind_iff]
  refine exists_congr fun parent => and_congr_right fun _ => ?_
  cases (PathText.names path).getLast? with
  | none =>
    constructor
    · intro h
      cases h
      exact .inl ⟨rfl, rfl⟩
    · intro h
      rcases h with ⟨-, rfl⟩ | ⟨name, hname, -⟩
      · rfl
      · simp at hname
  | some name => simp [find_eq_ok_iff]

theorem look?_eq_some_iff {entry : Entry} :
    d.look? path = some entry ↔ ∃ p, d.locate path = .ok p ∧ d.tree.look? p = some entry := by
  unfold look?
  cases d.locate path <;> simp

/-- A path under which a file was written leads to the file. -/
theorem locate_of_write (hp : d.fileTarget path = .ok p) (h : d.write path content = .ok e) :
    e.locate path = .ok p := by
  obtain ⟨parent, name, hparent, hname, hslash, hproper, hsize, rfl, -⟩ :=
    fileTarget_eq_ok_iff.1 hp
  -- the directories are the same, so the walk ends where it did
  have hparent := ((sameDirectories_of_write h).parentOf_eq_ok path parent).2 hparent
  refine locate_eq_ok_iff.2 ⟨parent, hparent, .inr ⟨name, hname, hsize, ?_, .inr ⟨hslash, ?_⟩⟩⟩
  · rw [reach_of_isProper hproper]
  · exact ⟨content, by simp [look?_of_write hp h]⟩

theorem look?_path_of_write (h : d.write path content = .ok e) :
    e.look? path = some (.file content) := by
  obtain ⟨p, hp, -⟩ := write_eq_ok_iff.1 h
  exact look?_eq_some_iff.2 ⟨p, locate_of_write hp h, by simp [look?_of_write hp h]⟩

/-- A file that is not written itself still stands after another one was written. -/
theorem locate_of_write_other (hp : d.fileTarget path = .ok p) (h : d.write path content = .ok e)
    (hother : d.locate other = .ok q) (hne : q ≠ p) : e.locate other = .ok q := by
  obtain ⟨parent, hparent, hq⟩ := locate_eq_ok_iff.1 hother
  refine locate_eq_ok_iff.2 ⟨parent, ?_, ?_⟩
  · exact ((sameDirectories_of_write h).parentOf_eq_ok other parent).2 hparent
  · rw [look?_of_write hp h, if_neg hne]
    exact hq

/-! ### A suffix -/

/-- A path with a suffix is written beside the path itself, under the longer name. -/
theorem fileTarget_append_suffix {suffix : String} (hsuffix : '/' ∉ suffix.toList)
    (hp : d.fileTarget path = .ok p) (hq : d.fileTarget (path ++ suffix) = .ok q) :
    ∃ parent name, p = parent ++ [name] ∧ q = parent ++ [name ++ suffix] := by
  obtain ⟨parent, name, hparent, hname, hslash, -, -, rfl, -⟩ := fileTarget_eq_ok_iff.1 hp
  obtain ⟨parent', name', hparent', hname', -, -, -, rfl, -⟩ := fileTarget_eq_ok_iff.1 hq
  have hnames := PathText.names_append_suffix hname hslash hsuffix
  have hpath : path ≠ "" := by
    intro h
    subst h
    simp [PathText.names] at hname
  have hstart : d.startOf (path ++ suffix) = d.startOf path := by
    simp [startOf, PathText.isAbsolute_append hpath]
  -- both paths walk along the same names, so they end in the same directory
  have hwalk := (parentOf_eq_ok_iff.1 hparent).2
  have hwalk' := (parentOf_eq_ok_iff.1 hparent').2
  rw [hnames, List.dropLast_concat, hstart, hwalk] at hwalk'
  obtain rfl : parent = parent' := Except.ok.inj hwalk'
  rw [hnames, List.getLast?_concat] at hname'
  obtain rfl : name ++ suffix = name' := Option.some.inj hname'
  exact ⟨parent, name, rfl, rfl⟩

/-! ### Disks that agree but for some paths -/

/-- Two disks have the same files and directories, except perhaps where some paths lead. -/
structure AgreeBut (paths : List String) (before after : Disk) : Prop where
  home_eq : after.home = before.home
  look?_eq : ∀ q, (∀ path ∈ paths, after.locate path ≠ .ok q) →
    after.tree.look? q = before.tree.look? q

theorem agreeBut_of_write (h : d.write path content = .ok e) : AgreeBut [path] d e := by
  obtain ⟨p, hp, -⟩ := write_eq_ok_iff.1 h
  refine ⟨home_of_write h, fun q hq => ?_⟩
  have hne : q ≠ p := by
    intro h'
    subst h'
    exact hq path (by simp) (locate_of_write hp h)
  rw [look?_of_write hp h, if_neg hne]

/-- After a path and the path with a suffix were written, both files stand, and nothing else has
    changed. -/
theorem look?_of_write_suffix {e' : Disk} {suffix : String} {content' : Bytes}
    (hsuffix : '/' ∉ suffix.toList) (hne : suffix ≠ "")
    (h : d.write path content = .ok e) (h' : e.write (path ++ suffix) content' = .ok e') :
    e'.look? path = some (.file content) ∧ e'.look? (path ++ suffix) = some (.file content') ∧
      AgreeBut [path, path ++ suffix] d e' := by
  obtain ⟨p, hp, -⟩ := write_eq_ok_iff.1 h
  obtain ⟨q, hq, -⟩ := write_eq_ok_iff.1 h'
  -- the two files stand in one directory under different names
  have hpq : p ≠ q := by
    have hp' := ((sameDirectories_of_write h).fileTarget_eq_ok path p).2 hp
    obtain ⟨parent, name, rfl, rfl⟩ := fileTarget_append_suffix hsuffix hp' hq
    intro heq
    have hname : name = name ++ suffix := by simpa using heq
    exact hne (by simpa using congrArg String.toList hname)
  -- so the second write leaves the first file where it is
  have hlocate : e'.locate path = .ok p :=
    locate_of_write_other hq h' (locate_of_write hp h) hpq
  refine ⟨?_, look?_path_of_write h', ?_, ?_⟩
  · refine look?_eq_some_iff.2 ⟨p, hlocate, ?_⟩
    rw [look?_of_write hq h', if_neg hpq, look?_of_write hp h, if_pos rfl]
  · rw [home_of_write h', home_of_write h]
  · intro r hr
    have hrq : r ≠ q := by
      intro hgiven
      subst hgiven
      exact hr (path ++ suffix) (by simp) (locate_of_write hq h')
    have hrp : r ≠ p := by
      intro hgiven
      subst hgiven
      exact hr path (by simp) hlocate
    rw [look?_of_write hq h', if_neg hrq, look?_of_write hp h, if_neg hrp]

end RegistryProbe.Files.Disk
