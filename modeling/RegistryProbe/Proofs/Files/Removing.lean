import RegistryProbe.Proofs.Files.Writing

/-! # Making and removing a directory

  A directory that is made stands where nothing stood. When it is removed under the same path, all
  below it goes and nothing else.

  - `IsSite` collects what is so of a path under which a directory was made. It speaks of the path
    alone, so it stays true whatever happens to the disk: `isSite_of_makeDirectory`.
  - `Made` says how the disk comes out when a directory is made, `Removed` when it is removed.
  - At a site, removing leaves no directory behind: `removed_of_isSite`.
-/

namespace RegistryProbe.Files.Disk

variable {d e : Disk} {p q : Location} {path : String}

/-! ### Making -/

theorem directoryTarget_eq_ok_iff :
    d.directoryTarget path = .ok p ↔
      ∃ parent name, d.parentOf path = .ok parent ∧ (PathText.names path).getLast? = some name ∧
        isProper name = true ∧ name.utf8ByteSize ≤ PathText.maxName ∧ p = parent ++ [name] ∧
        d.tree.look? p = none := by
  unfold directoryTarget
  rw [ok_bind_iff]
  refine exists_congr fun parent => ?_
  cases hlast : (PathText.names path).getLast? with
  | none => simp
  | some name =>
    cases hproper : isProper name with
    | false => simp [findNew, hproper]
    | true =>
      simp only [findNew, hproper, Bool.not_true, Bool.false_eq_true, if_false, ok_bind_iff,
        descend_eq_ok_iff, reach_of_isProper hproper]
      constructor
      · intro h'
        obtain ⟨hparent, _, ⟨hsize, rfl⟩, h⟩ := h'
        split at h
        next => cases h
        next hnone =>
          cases h
          exact ⟨name, hparent, rfl, hproper, hsize, rfl, by simpa using hnone⟩
      · intro h'
        obtain ⟨_, hparent, ⟨⟩, -, hsize, rfl, hnone⟩ := h'
        exact ⟨hparent, _, ⟨hsize, rfl⟩, by simp [hnone]⟩

theorem makeDirectory_eq_ok_iff :
    d.makeDirectory path = .ok e ↔
      ∃ p, d.directoryTarget path = .ok p ∧
        e = { d with tree := d.tree.put (.directory []) p } := by
  unfold makeDirectory
  rw [ok_bind_iff]
  refine exists_congr fun p => and_congr_right fun _ => ?_
  constructor
  · intro h
    cases h
    rfl
  · intro h
    subst h
    rfl

/-- Where nothing stood there is a directory now, and nothing else has changed. -/
theorem look?_of_makeDirectory (hp : d.directoryTarget path = .ok p)
    (h : d.makeDirectory path = .ok e) (q : Location) :
    e.tree.look? q = if q = p then some .directory else d.tree.look? q := by
  obtain ⟨_, hp', rfl⟩ := makeDirectory_eq_ok_iff.1 h
  cases hp.symm.trans hp'
  obtain ⟨parent, name, hparent, -, -, -, rfl, hnone⟩ := directoryTarget_eq_ok_iff.1 hp
  have hdir : d.tree.look? (parent ++ [name]).dropLast = some .directory := by
    rw [List.dropLast_concat]
    exact look?_of_parentOf hparent
  exact Tree.look?_put_directory (by simp) hdir hnone q

/-! ### Sites -/

/-- The place that an absolute path leads to. -/
def placeOf (path : String) : Location := destination [] (PathText.names path)

/-- What is so of a path under which a directory was made: it is absolute, its last name is one
    that a directory can have, and the way along it never enters this directory. -/
structure IsSite (path : String) : Prop where
  absolute : PathText.isAbsolute path = true
  proper : (PathText.names path).getLast?.any isProper = true
  clear : (places [] (PathText.names path).dropLast).any (isBelow (placeOf path)) = false

theorem placeOf_eq {name : String} (hname : (PathText.names path).getLast? = some name)
    (hproper : isProper name = true) :
    placeOf path = destination [] (PathText.names path).dropLast ++ [name] := by
  -- a proper last name leads one step further down
  obtain ⟨front, hfront⟩ := List.getLast?_eq_some_iff.1 hname
  unfold placeOf
  rw [hfront, List.dropLast_concat, destination_append, destination_cons, destination_nil,
    reach_of_isProper hproper]

theorem startOf_of_absolute (h : PathText.isAbsolute path = true) (d : Disk) :
    d.startOf path = [] :=
  if_pos h

/-- The parent of an absolute path is where its names lead, as soon as there is one. -/
theorem eq_destination_of_parentOf (h : PathText.isAbsolute path = true)
    (hp : d.parentOf path = .ok p) : p = destination [] (PathText.names path).dropLast := by
  have hwalk := (parentOf_eq_ok_iff.1 hp).2
  rw [startOf_of_absolute h] at hwalk
  exact (walk_eq_ok_iff.1 hwalk).2.2

theorem eq_placeOf_of_locate (h : PathText.isAbsolute path = true)
    (hp : d.locate path = .ok p) : p = placeOf path := by
  obtain ⟨parent, hparent, hlast⟩ := locate_eq_ok_iff.1 hp
  have := eq_destination_of_parentOf h hparent
  rcases hlast with ⟨hnone, rfl⟩ | ⟨name, hname, -, rfl, -⟩
  · have hnil : PathText.names path = [] := List.getLast?_eq_none_iff.1 hnone
    rw [this, placeOf, hnil]
    rfl
  · obtain ⟨front, hfront⟩ := List.getLast?_eq_some_iff.1 hname
    rw [hfront, List.dropLast_concat] at this
    rw [this, placeOf, hfront, destination_append]
    rfl

theorem eq_placeOf_of_directoryTarget (h : PathText.isAbsolute path = true)
    (hp : d.directoryTarget path = .ok p) : p = placeOf path := by
  obtain ⟨parent, name, hparent, hname, hproper, -, rfl, -⟩ := directoryTarget_eq_ok_iff.1 hp
  rw [placeOf_eq hname hproper, eq_destination_of_parentOf h hparent]

/-- A path under which a directory could be made is a site: where the directory came to stand
    nothing stood, and all places on the way were directories. -/
theorem isSite_of_makeDirectory (habsolute : PathText.isAbsolute path = true)
    (h : d.makeDirectory path = .ok e) : IsSite path := by
  obtain ⟨p, hp, -⟩ := makeDirectory_eq_ok_iff.1 h
  have hplace := eq_placeOf_of_directoryTarget habsolute hp
  obtain ⟨parent, name, hparent, hname, hproper, -, -, hnone⟩ := directoryTarget_eq_ok_iff.1 hp
  have hwalk := (parentOf_eq_ok_iff.1 hparent).2
  rw [startOf_of_absolute habsolute] at hwalk
  refine ⟨habsolute, by simp [hname, hproper], ?_⟩
  rw [List.any_eq_false]
  intro r hr hbelow
  -- a directory on the way below this place would make the place a directory
  have hdir := (walk_eq_ok_iff.1 hwalk).2.1 r (List.mem_cons_of_mem _ hr)
  rw [← hplace] at hbelow
  simp only [isBelow, Bool.and_eq_true, List.isPrefixOf_iff_prefix, decide_eq_true_eq] at hbelow
  obtain ⟨⟨more, rfl⟩, hlt⟩ := hbelow
  have hmore : more ≠ [] := by
    intro h'
    subst h'
    simp at hlt
  rw [Tree.directory_of_look? hmore hdir] at hnone
  cases hnone

/-- How a disk comes out when a directory is made at a path: where nothing stood there is an empty
    directory now, the path leads to it, and every other place is as it was. -/
structure Made (path : String) (before after : Disk) : Prop where
  home_eq : after.home = before.home
  new : before.tree.look? (placeOf path) = none
  stands : after.look? path = some .directory
  empty : ∀ q, placeOf path <+: q → q ≠ placeOf path → after.tree.look? q = none
  look?_eq : ∀ q, after.tree.look? q =
    if q = placeOf path then some .directory else before.tree.look? q

/-- The directories on the way to a new directory lead to it. -/
theorem look?_path_of_makeDirectory (h : d.makeDirectory path = .ok e) :
    e.look? path = some .directory := by
  obtain ⟨p, hp, he⟩ := makeDirectory_eq_ok_iff.1 h
  have hlook := look?_of_makeDirectory hp h
  obtain ⟨parent, name, hparent, hname, hproper, hsize, rfl, -⟩ := directoryTarget_eq_ok_iff.1 hp
  have hhome : e.home = d.home := by rw [he]
  have hplace : e.tree.look? (parent ++ [name]) = some .directory := by rw [hlook, if_pos rfl]
  -- no directory has gone, so the walk ends where it did
  have hparent : e.parentOf path = .ok parent := by
    obtain ⟨hcheck, hwalk⟩ := parentOf_eq_ok_iff.1 hparent
    obtain ⟨hnames, hplaces, hdest⟩ := walk_eq_ok_iff.1 hwalk
    have hstart : e.startOf path = d.startOf path := by simp [startOf, hhome]
    refine parentOf_eq_ok_iff.2 ⟨hcheck, ?_⟩
    rw [hstart]
    refine walk_eq_ok_iff.2 ⟨hnames, fun r hr => ?_, hdest⟩
    rw [hlook]
    split
    next => rfl
    next => exact hplaces r hr
  refine look?_eq_some_iff.2 ⟨parent ++ [name], ?_, hplace⟩
  refine locate_eq_ok_iff.2 ⟨parent, hparent, .inr ⟨name, hname, hsize, ?_, .inl hplace⟩⟩
  rw [reach_of_isProper hproper]

theorem made_of_makeDirectory (habsolute : PathText.isAbsolute path = true)
    (h : d.makeDirectory path = .ok e) : Made path d e := by
  obtain ⟨p, hp, he⟩ := makeDirectory_eq_ok_iff.1 h
  -- the path is absolute, so its names alone tell the place
  obtain rfl := eq_placeOf_of_directoryTarget habsolute hp
  obtain ⟨_, _, -, -, -, -, -, hnone⟩ := directoryTarget_eq_ok_iff.1 hp
  have hlook := look?_of_makeDirectory hp h
  refine ⟨by rw [he], hnone, look?_path_of_makeDirectory h, ?_, hlook⟩
  rintro q ⟨more, rfl⟩ hne
  have hmore : more ≠ [] := by
    rintro rfl
    exact hne (List.append_nil _)
  rw [hlook, if_neg hne]
  exact Tree.look?_below hmore (by rw [hnone]; exact fun h' => by cases h')

/-! ### Removing -/

/-- How a disk comes out when the directory at a path is removed: no directory stands at the path
    any more, what stood below its place is gone, and every other place is as it was. -/
structure Removed (path : String) (before after : Disk) : Prop where
  home_eq : after.home = before.home
  no_directory : after.look? path ≠ some .directory
  gone : before.look? path = some .directory →
    ∀ q, placeOf path <+: q → after.tree.look? q = none
  elsewhere : ∀ q, ¬ placeOf path <+: q → after.tree.look? q = before.tree.look? q

theorem placeOf_ne_nil (h : IsSite path) : placeOf path ≠ [] := by
  have hproper := h.proper
  cases hname : (PathText.names path).getLast? with
  | none => simp [hname] at hproper
  | some name =>
    rw [placeOf_eq hname (by simpa [hname] using hproper)]
    simp

theorem removeDirectory_of_no_directory (h : d.look? path ≠ some .directory) :
    ∃ f, d.removeDirectory path = (d, .error f) := by
  unfold removeDirectory
  cases hp : d.locate path with
  | error f => exact ⟨f, rfl⟩
  | ok p =>
    have hdir : d.tree.look? p ≠ some .directory := fun hdir =>
      h (look?_eq_some_iff.2 ⟨p, hp, hdir⟩)
    dsimp only
    split
    next heq => exact absurd heq hdir
    next => exact ⟨.notDirectory, rfl⟩

theorem removeDirectory_of_isSite (hsite : IsSite path)
    (h : d.look? path = some .directory) :
    d.removeDirectory path = ({ d with tree := d.tree.prune (placeOf path) }, .ok ()) := by
  obtain ⟨p, hp, hdir⟩ := look?_eq_some_iff.1 h
  obtain rfl := eq_placeOf_of_locate hsite.absolute hp
  -- the way starts at the root, whatever the working directory is
  have hclear : (d.wayTo path).any (isBelow (placeOf path)) = false := by
    rw [wayTo, startOf_of_absolute hsite.absolute]
    exact hsite.clear
  simp [removeDirectory, hp, hdir, hclear, hsite.proper]

/-- Removing the directory at a site, whatever has become of the disk since it was made. -/
theorem removed_of_isSite (hsite : IsSite path) (d : Disk) :
    Removed path d (d.removeDirectory path).1 := by
  by_cases h : d.look? path = some .directory
  · rw [removeDirectory_of_isSite hsite h]
    have hprune := Tree.look?_prune (t := d.tree) (placeOf_ne_nil hsite)
    refine ⟨rfl, ?_, fun _ q hq => ?_, fun q hq => ?_⟩
    · -- the path can lead to its place only, and there nothing stands
      intro hdir
      obtain ⟨p, hp, hlook⟩ := look?_eq_some_iff.1 hdir
      obtain rfl := eq_placeOf_of_locate hsite.absolute hp
      rw [hprune, if_pos (List.prefix_refl _)] at hlook
      cases hlook
    · rw [hprune, if_pos hq]
    · rw [hprune, if_neg hq]
  · obtain ⟨f, hf⟩ := removeDirectory_of_no_directory h
    rw [hf]
    exact ⟨rfl, h, fun hdir => absurd hdir h, fun _ _ => rfl⟩

end RegistryProbe.Files.Disk
