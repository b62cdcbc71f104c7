import RegistryProbe.Proofs.Files.Laying
import RegistryProbe.Proofs.Probe.Answer

/-! # The files that a probe lays

  A probe writes a file for the body and a file for the status. Which of the two it comes to write,
  and what it finds, depends on the reply and on the directories of the disk.

  - `Errand.coming` is what an errand comes to for a reply: its result and the files that it lays.
    A probe is made just so, in any session: `perform_lays`.
  - Where the output stands in a directory, what an errand comes to is the same on all disks with
    the same directories: `Errand.coming_congr`.
  - The files stand at the places that the output and its status path name:
    `Errand.mem_files_coming`.
-/

namespace RegistryProbe

open Files

variable {d e : Disk} {p parent : Location} {output : String} {response : Response}
  {request : Request} {expectation : Expectation} {reply : Except ProbeError Response}
  {file : Location × Bytes}

/-! ### Keeping a response -/

/-- What keeping a response comes to: whether both files can be written, and the files that are
    laid, the last one in front. -/
def keeping (output : String) (response : Response) (d : Disk) :
    Except ProbeError Unit × List (Location × Bytes) :=
  match d.fileTarget output with
  | .error f => (.error (.file .writing output (.fault f)), [])
  | .ok p =>
    match d.fileTarget (statusPath output) with
    | .error f =>
      (.error (.file .writing (statusPath output) (.fault f)), [(p, response.body)])
    | .ok q => (.ok (), [(q, statusBytes response.status), (p, response.body)])

/-- Where a body can be written, the directories alone decide about its status. -/
theorem statusTarget_eq (h : Disk.SameDirectories d e) (hp : d.fileTarget output = .ok p) :
    e.fileTarget (statusPath output) = d.fileTarget (statusPath output) :=
  h.fileTarget_append_eq (by decide) hp

theorem keep_lays (output : String) (response : Response) (d : Disk) :
    (keep output response d).1 = (keeping output response d).1 ∧
      Disk.Lays d (keeping output response d).2 (keep output response d).2 := by
  unfold keep keeping
  cases hbody : d.fileTarget output with
  | error f =>
    rw [Disk.write_of_fault hbody]
    exact ⟨rfl, Disk.lays_nil d⟩
  | ok p =>
    have hwrite := Disk.write_of_fileTarget hbody response.body
    have hlays := Disk.lays_of_write hbody hwrite
    -- the body makes no difference to whether the status can be written
    have hsame := statusTarget_eq hlays.directories hbody
    rw [hwrite]
    dsimp only
    cases hstatus : d.fileTarget (statusPath output) with
    | error f =>
      rw [Disk.write_of_fault (hsame.trans hstatus)]
      exact ⟨rfl, hlays⟩
    | ok q =>
      have hstatus' := hsame.trans hstatus
      have hwrite' := Disk.write_of_fileTarget hstatus' (statusBytes response.status)
      rw [hwrite']
      exact ⟨rfl, hlays.trans (Disk.lays_of_write hstatus' hwrite')⟩

theorem keeping_congr (h : Disk.SameDirectories d e) (hparent : d.parentOf output = .ok parent)
    (response : Response) : keeping output response e = keeping output response d := by
  unfold keeping
  rw [h.fileTarget_eq hparent]
  cases hbody : d.fileTarget output with
  | error f => rfl
  | ok p =>
    dsimp only
    rw [statusTarget_eq h hbody]

/-- A file that is laid stands where the output is written, or where its status is. -/
theorem mem_files_keeping (h : file ∈ (keeping output response d).2) :
    d.fileTarget output = .ok file.1 ∨
      (∃ p, d.fileTarget output = .ok p) ∧ d.fileTarget (statusPath output) = .ok file.1 := by
  unfold keeping at h
  cases hbody : d.fileTarget output with
  | error f => simp [hbody] at h
  | ok p =>
    cases hstatus : d.fileTarget (statusPath output) with
    | error f =>
      simp only [hbody, hstatus, List.mem_singleton] at h
      simp [h]
    | ok q =>
      simp only [hbody, hstatus, List.mem_cons, List.not_mem_nil, or_false] at h
      rcases h with rfl | rfl
      · simp
      · simp

/-! ### Answering a request -/

/-- What a reply comes to: the result of the probe and the files that it lays. -/
def answering (request : Request) (expectation : Expectation) (output : String)
    (reply : Except ProbeError Response) (d : Disk) :
    Except ProbeError Outcome × List (Location × Bytes) :=
  match reply with
  | .error e => (.error e, [])
  | .ok response =>
    match keeping output response d with
    | (.error e, files) => (.error e, files)
    | (.ok (), files) =>
      ((verdict request response expectation).map (Session.outcome request response output), files)

theorem answer_lays (request : Request) (expectation : Expectation) (output : String)
    (reply : Except ProbeError Response) (d : Disk) :
    (answer request expectation output reply d).1 =
        (answering request expectation output reply d).1 ∧
      Disk.Lays d (answering request expectation output reply d).2
        (answer request expectation output reply d).2 := by
  unfold answer answering
  cases reply with
  | error e => exact ⟨rfl, Disk.lays_nil d⟩
  | ok response =>
    obtain ⟨hkept, hlays⟩ := keep_lays output response d
    dsimp only
    generalize keep output response d = kept at hkept hlays ⊢
    generalize keeping output response d = coming at hkept hlays ⊢
    obtain ⟨kept, after⟩ := kept
    obtain ⟨result, files⟩ := coming
    subst hkept
    cases kept with
    | error e => exact ⟨rfl, hlays⟩
    | ok _ => exact ⟨rfl, hlays⟩

theorem answering_congr (h : Disk.SameDirectories d e)
    (hparent : d.parentOf output = .ok parent) (request : Request) (expectation : Expectation)
    (reply : Except ProbeError Response) :
    answering request expectation output reply e =
      answering request expectation output reply d := by
  unfold answering
  cases reply with
  | error e => rfl
  | ok response =>
    dsimp only
    rw [keeping_congr h hparent]

theorem mem_files_answering (h : file ∈ (answering request expectation output reply d).2) :
    ∃ response, file ∈ (keeping output response d).2 := by
  unfold answering at h
  cases reply with
  | error e => simp at h
  | ok response =>
    refine ⟨response, ?_⟩
    dsimp only at h
    cases hkeeping : keeping output response d with
    | mk result files =>
      rw [hkeeping] at h
      cases result with
      | error e => exact h
      | ok _ => exact h

/-! ### Errands -/

namespace Errand

/-- What an errand comes to if its request gets a reply. If the expectation cannot be read, no
    request is sent and the reply plays no role. -/
def coming (root : ApiRoot) (errand : Errand) (reply : Except ProbeError Response) (d : Disk) :
    Except ProbeError Outcome × List (Location × Bytes) :=
  match errand.expression with
  | none => answering (root.request errand.endpoint) .errorList errand.output reply d
  | some expression =>
    match Expectation.read expression with
    | .error e => (.error e, [])
    | .ok expectation =>
      answering (root.request errand.endpoint) expectation errand.output reply d

variable {errand : Errand}

theorem coming_congr (h : Disk.SameDirectories d e)
    (hparent : d.parentOf errand.output = .ok parent) (root : ApiRoot)
    (reply : Except ProbeError Response) :
    errand.coming root reply e = errand.coming root reply d := by
  unfold coming
  cases errand.expression with
  | none => exact answering_congr h hparent _ _ _
  | some expression =>
    dsimp only
    cases Expectation.read expression with
    | error e => rfl
    | ok expectation => exact answering_congr h hparent _ _ _

theorem exists_keeping_of_mem_coming {root : ApiRoot} (h : file ∈ (errand.coming root reply d).2) :
    ∃ response, file ∈ (keeping errand.output response d).2 := by
  unfold coming at h
  cases hexpression : errand.expression with
  | none =>
    rw [hexpression] at h
    exact mem_files_answering h
  | some expression =>
    rw [hexpression] at h
    dsimp only at h
    cases hread : Expectation.read expression with
    | error e =>
      rw [hread] at h
      exact absurd h List.not_mem_nil
    | ok expectation =>
      rw [hread] at h
      exact mem_files_answering h

/-- The files of an errand stand at the places that its output and its status path name. -/
theorem mem_files_coming {root : ApiRoot} (h : file ∈ (errand.coming root reply d).2) :
    file.1 = d.named errand.output ∨ file.1 = d.named (statusPath errand.output) := by
  obtain ⟨response, hfile⟩ := exists_keeping_of_mem_coming h
  rcases mem_files_keeping hfile with hbody | ⟨-, hstatus⟩
  · exact .inl (Disk.eq_named_of_fileTarget hbody)
  · exact .inr (Disk.eq_named_of_fileTarget hstatus)

end Errand

/-- A probe comes to what its errand comes to with the reply that it gets. -/
theorem Session.perform_lays (net : Network) (root : ApiRoot) (errand : Errand) (s : Session) :
    (s.perform net root errand).1 =
        (errand.coming root (net s.sent (root.request errand.endpoint)) s.disk).1 ∧
      Disk.Lays s.disk
        (errand.coming root (net s.sent (root.request errand.endpoint)) s.disk).2
        (s.perform net root errand).2.disk := by
  have hprobe (expectation : Expectation) :
      (s.probe net root errand.endpoint expectation errand.output).1 =
          (answering (root.request errand.endpoint) expectation errand.output
            (net s.sent (root.request errand.endpoint)) s.disk).1 ∧
        Disk.Lays s.disk
          (answering (root.request errand.endpoint) expectation errand.output
            (net s.sent (root.request errand.endpoint)) s.disk).2
          (s.probe net root errand.endpoint expectation errand.output).2.disk := by
    obtain ⟨hresult, hafter⟩ :=
      probe_spec net root errand.endpoint expectation errand.output s
    obtain ⟨hanswer, hlays⟩ := answer_lays (root.request errand.endpoint) expectation
      errand.output (net s.sent (root.request errand.endpoint)) s.disk
    rw [hresult, hafter.disk_eq]
    exact ⟨hanswer, hlays⟩
  unfold perform probeText Errand.coming
  cases errand.expression with
  | none => exact hprobe .errorList
  | some expression =>
    dsimp only
    cases Expectation.read expression with
    | error e => exact ⟨rfl, Disk.lays_nil s.disk⟩
    | ok expectation => exact hprobe expectation

end RegistryProbe
