import RegistryProbe.Proofs.Files.Removing
import RegistryProbe.Workspace

/-! # Setting up a workspace

  A workspace is set up by making one directory under a new name. An attempt that fails costs
  nothing but tags: `setupIn_error`, `setupIn_ok`. The path of the new directory is a site, so
  whatever happens to the disk later, removing it removes the directory and nothing else:
  `isSite_of_setupIn`.
-/

namespace RegistryProbe

open Files

namespace Session

variable {s t : Session} {base parent path : String} {attempts : Nat} {w : Workspace}
  {e : ProbeError}

-- An attempt is looked at as a whole. Opening it would evaluate the name of the directory.
attribute [local irreducible] Disk.makeDirectory

/-- One attempt to make a directory. -/
theorem makeUnder_succ (base : String) (attempts : Nat) (s : Session) :
    s.makeUnder base (attempts + 1) =
      match s.disk.makeDirectory (PathText.join base (workspacePrefix ++ s.draw.1.text)) with
      | .ok disk =>
        (.ok (PathText.join base (workspacePrefix ++ s.draw.1.text)),
          { s.draw.2 with disk := disk })
      | .error .alreadyExists => s.draw.2.makeUnder base attempts
      | .error f =>
        (.error (f, PathText.join base (workspacePrefix ++ s.draw.1.text)), s.draw.2) := rfl

theorem makeUnder_error {fault : Fault × String}
    (h : s.makeUnder base attempts = (.error fault, t)) : ∃ n, t = { s with drawn := n } := by
  -- attempts that find their name taken draw a tag and leave the rest alone
  induction attempts generalizing s with
  | zero =>
    obtain ⟨-, rfl⟩ := Prod.mk.inj h
    exact ⟨s.drawn, rfl⟩
  | succ attempts ih =>
    rw [makeUnder_succ] at h
    generalize PathText.join base (workspacePrefix ++ s.draw.1.text) = path at h
    split at h
    next => cases h
    next =>
      obtain ⟨n, hn⟩ := ih h
      exact ⟨n, hn⟩
    next =>
      obtain ⟨-, rfl⟩ := Prod.mk.inj h
      exact ⟨s.drawn + 1, rfl⟩

/-- The directory that is made in the end is the first that could be made. It is the only change
    to the disk. -/
theorem makeUnder_ok (h : s.makeUnder base attempts = (.ok path, t)) :
    ∃ (tag : Tag) (d : Disk) (n : Nat), path = PathText.join base (workspacePrefix ++ tag.text) ∧
      s.disk.makeDirectory path = .ok d ∧ t = { s with disk := d, drawn := n } := by
  induction attempts generalizing s with
  | zero => cases h
  | succ attempts ih =>
    rw [makeUnder_succ] at h
    generalize hname : PathText.join base (workspacePrefix ++ s.draw.1.text) = name at h
    split at h
    next d hd =>
      cases h
      exact ⟨s.draw.1, d, s.drawn + 1, hname.symm, hd, rfl⟩
    next =>
      -- the name was taken: the rest of the attempts see the same disk
      obtain ⟨tag, d, n, hpath, hd, ht⟩ := ih h
      exact ⟨tag, d, n, hpath, hd, ht⟩
    next => cases h

/-- A workspace that cannot be set up leaves no trace. -/
theorem setupIn_error (h : s.setupIn parent = (.error e, t)) : ∃ n, t = { s with drawn := n } := by
  unfold setupIn at h
  generalize workspaceAttempts = attempts at h
  split at h
  next hmake =>
    obtain ⟨-, rfl⟩ := Prod.mk.inj h
    exact makeUnder_error hmake
  next => cases h

theorem setupIn_ok (h : s.setupIn parent = (.ok w, t)) :
    ∃ (tag : Tag) (d : Disk) (n : Nat),
      w = ⟨PathText.join (s.absolute parent) (workspacePrefix ++ tag.text), .aborted⟩ ∧
      s.disk.makeDirectory w.path = .ok d ∧
      t = { s with disk := d, drawn := n }.note (.workspaceMade w.path) := by
  unfold setupIn at h
  generalize workspaceAttempts = attempts at h
  split at h
  next => cases h
  next hmake =>
    cases h
    obtain ⟨tag, d, n, hpath, hd, rfl⟩ := makeUnder_ok hmake
    exact ⟨tag, d, n, by rw [hpath], hd, rfl⟩

theorem isAbsolute_absolute (s : Session) (path : String) :
    PathText.isAbsolute (s.absolute path) = true := by
  apply PathText.isAbsolute_join
  unfold PathText.ofLocation
  rw [PathText.isAbsolute_append (by decide)]
  decide

theorem isAbsolute_of_setupIn (h : s.setupIn parent = (.ok w, t)) :
    PathText.isAbsolute w.path = true := by
  obtain ⟨tag, d, n, hw, -, -⟩ := setupIn_ok h
  rw [hw]
  exact PathText.isAbsolute_join (s.isAbsolute_absolute parent)

/-- A workspace that was set up is a new directory at a site. -/
theorem isSite_of_setupIn (h : s.setupIn parent = (.ok w, t)) :
    Disk.IsSite w.path ∧ Disk.Made w.path s.disk t.disk := by
  have habsolute := isAbsolute_of_setupIn h
  obtain ⟨tag, d, n, -, hd, rfl⟩ := setupIn_ok h
  exact ⟨Disk.isSite_of_makeDirectory habsolute hd, Disk.made_of_makeDirectory habsolute hd⟩

/-! ### In the directory for temporary files -/

theorem setup_error (h : s.setup = (.error e, t)) : ∃ n, t = { s with drawn := n } :=
  setupIn_error h

theorem setup_ok (h : s.setup = (.ok w, t)) :
    ∃ (tag : Tag) (d : Disk) (n : Nat),
      w = ⟨PathText.join (s.absolute s.temp) (workspacePrefix ++ tag.text), .aborted⟩ ∧
      s.disk.makeDirectory w.path = .ok d ∧
      t = { s with disk := d, drawn := n }.note (.workspaceMade w.path) :=
  setupIn_ok h

theorem isSite_of_setup (h : s.setup = (.ok w, t)) :
    Disk.IsSite w.path ∧ s.disk.tree.look? (Disk.placeOf w.path) = none ∧
      ∀ q, t.disk.tree.look? q =
        if q = Disk.placeOf w.path then some .directory else s.disk.tree.look? q := by
  obtain ⟨hsite, hmade⟩ := isSite_of_setupIn h
  exact ⟨hsite, hmade.new, hmade.look?_eq⟩

end Session

end RegistryProbe
