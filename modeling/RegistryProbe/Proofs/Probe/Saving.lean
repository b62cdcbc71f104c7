import RegistryProbe.Proofs.Files.Writing
import RegistryProbe.Proofs.Probe.Answer

/-! # The files that a probe leaves

  Once a whole response has arrived, a probe ends in exactly one of three ways, depending on how
  many of the two files can be written:

  - None: the files stay as they were.
  - The body alone: it stands under the output path, and nothing else has changed.
  - Both: they stand under their paths, nothing else has changed, and only now the verdict counts.

  The expectation decides the result in the last case, and the files in no case.
-/

namespace RegistryProbe

open Files

/-! ### The three ways -/

/-- One of three statements holds, and only one. -/
def ExactlyOne (a b c : Prop) : Prop :=
  a ∧ ¬ b ∧ ¬ c ∨ ¬ a ∧ b ∧ ¬ c ∨ ¬ a ∧ ¬ b ∧ c

section
variable (request : Request) (expectation : Expectation) (output : String) (response : Response)
  (before after : Disk) (result : Except ProbeError Outcome)

/-- The body could not be written. -/
structure BodyUnwritten : Prop where
  /-- Writing the body fails, and the probe fails with the path of the body. -/
  failed : ∃ f, before.write output response.body = .error f ∧
    result = .error (.file .writing output (.fault f))
  /-- All files are as they were. -/
  unchanged : after = before

/-- The body was written, the status could not be. -/
structure StatusUnwritten : Prop where
  /-- The body was written. -/
  written : before.write output response.body = .ok after
  /-- Writing the status fails, and the probe fails with the path of the status. -/
  failed : ∃ f,
    after.write (output ++ ".http") (Bytes.ofText (Text.Decimal.text response.status.toNat))
        = .error f ∧
      result = .error (.file .writing (output ++ ".http") (.fault f))
  /-- The file of the body holds the body. -/
  body : after.look? output = some (.file response.body)
  /-- Nothing else has changed. -/
  others : Disk.AgreeBut [output] before after

/-- Body and status were written, and the response was judged. -/
structure SavedAndJudged : Prop where
  /-- The body was written and then the status. -/
  written : ∃ d, before.write output response.body = .ok d ∧
    d.write (output ++ ".http") (Bytes.ofText (Text.Decimal.text response.status.toNat)) = .ok after
  /-- The file of the body holds the body. -/
  body : after.look? output = some (.file response.body)
  /-- The file of the status holds the decimal status and nothing else. -/
  status : after.look? (output ++ ".http") =
    some (.file (Bytes.ofText (Text.Decimal.text response.status.toNat)))
  /-- Nothing else has changed. -/
  others : Disk.AgreeBut [output, output ++ ".http"] before after
  /-- The probe finds something if the response is accepted, and only then. -/
  accepted_iff : (∃ o, result = .ok o) ↔ ∃ d, verdict request response expectation = .ok d
  /-- Otherwise it fails as the verdict says. -/
  rejected : ∀ e, verdict request response expectation = .error e → result = .error e
  /-- What an accepted probe finds. -/
  outcome : ∀ o, result = .ok o →
    o.status = response.status ∧ (o.status = 200 ∨ o.status = 404) ∧ o.url = request.url ∧
    o.finalUrl = response.finalUrl ∧ o.bodyPath = output ∧ o.statusPath = output ++ ".http" ∧
    ∃ d, verdict request response expectation = .ok d ∧
      o.errors = if response.status = 404 then Envelope.details d else []

end

section
variable {request : Request} {expectation : Expectation} {output : String} {response : Response}
  {before after : Disk} {result : Except ProbeError Outcome}

/-! ### No two of them at once -/

theorem BodyUnwritten.not_statusUnwritten (h : BodyUnwritten output response before after result) :
    ¬ StatusUnwritten output response before after result := by
  intro h'
  obtain ⟨f, hf, -⟩ := h.failed
  simp [h'.written] at hf

theorem BodyUnwritten.not_savedAndJudged (h : BodyUnwritten output response before after result) :
    ¬ SavedAndJudged request expectation output response before after result := by
  intro h'
  obtain ⟨f, hf, -⟩ := h.failed
  obtain ⟨d, hd, -⟩ := h'.written
  simp [hd] at hf

theorem StatusUnwritten.not_savedAndJudged
    (h : StatusUnwritten output response before after result) :
    ¬ SavedAndJudged request expectation output response before after result := by
  intro h'
  obtain ⟨f, hf, -⟩ := h.failed
  obtain ⟨d, hd, hd'⟩ := h'.written
  -- the body was written only once, so both are about one disk
  obtain rfl : after = d := Except.ok.inj (h.written.symm.trans hd)
  simp [hd'] at hf

/-! ### One of them always -/

/-- Only the statuses 200 and 404 are ever accepted. -/
theorem status_of_accepted {d : Json} (h : verdict request response expectation = .ok d) :
    response.status = 200 ∨ response.status = 404 := by
  by_cases h200 : response.status = 200
  · exact .inl h200
  · by_cases h404 : response.status = 404
    · exact .inr h404
    · simp [verdict, Expectation.inForce?, h200, h404] at h

theorem savedAndJudged_of_write {d : Disk} (hbody : before.write output response.body = .ok d)
    (hstatus : d.write (statusPath output) (statusBytes response.status) = .ok after) :
    SavedAndJudged request expectation output response before after
      ((verdict request response expectation).map (Session.outcome request response output)) := by
  obtain ⟨body, status, others⟩ :=
    Disk.look?_of_write_suffix (by decide) (by decide) hbody hstatus
  refine ⟨⟨d, hbody, hstatus⟩, body, status, others, ?_, ?_, ?_⟩
  · cases verdict request response expectation <;> simp [Except.map]
  · intro e he
    simp [he, Except.map]
  · intro o ho
    -- a result was found, so the verdict was in favour
    cases hv : verdict request response expectation with
    | error e => simp [hv, Except.map] at ho
    | ok doc =>
      rw [hv] at ho
      cases ho
      exact ⟨rfl, status_of_accepted hv, rfl, rfl, rfl, rfl, doc, rfl, rfl⟩

theorem answer_of_response
    (h : answer request expectation output (.ok response) before = (result, after)) :
    BodyUnwritten output response before after result ∨
      StatusUnwritten output response before after result ∨
      SavedAndJudged request expectation output response before after result := by
  cases hbody : before.write output response.body with
  | error f =>
    left
    have hkeep : keep output response before =
        (.error (.file .writing output (.fault f)), before) := by simp [keep, hbody]
    simp only [answer, hkeep, Prod.mk.injEq] at h
    obtain ⟨rfl, rfl⟩ := h
    exact ⟨⟨f, hbody, rfl⟩, rfl⟩
  | ok d =>
    right
    cases hstatus : d.write (statusPath output) (statusBytes response.status) with
    | error f =>
      left
      have hkeep : keep output response before =
          (.error (.file .writing (statusPath output) (.fault f)), d) := by
        simp [keep, hbody, hstatus]
      simp only [answer, hkeep, Prod.mk.injEq] at h
      obtain ⟨rfl, rfl⟩ := h
      exact ⟨hbody, ⟨f, hstatus, rfl⟩, Disk.look?_path_of_write hbody,
        Disk.agreeBut_of_write hbody⟩
    | ok d' =>
      right
      have hkeep : keep output response before = (.ok (), d') := by simp [keep, hbody, hstatus]
      simp only [answer, hkeep, Prod.mk.injEq] at h
      obtain ⟨rfl, rfl⟩ := h
      exact savedAndJudged_of_write hbody hstatus

/-- The expectation has no part in the files that a probe leaves. -/
theorem answer_snd_eq (request : Request) (expectation other : Expectation) (output : String)
    (reply : Except ProbeError Response) (before : Disk) :
    (answer request expectation output reply before).2 =
      (answer request other output reply before).2 := by
  unfold answer
  cases reply with
  | error e => rfl
  | ok response =>
    dsimp only
    split <;> rfl

end

/-! ### The theorem -/

/-- A probe that gets a whole response ends in exactly one of three ways: without files, with the
    body alone, or with body and status and then judged. The files do not depend on the
    expectation. -/
theorem probe_ends_in_one_of_three_ways (net : Network) (base endpoint : String)
    (expectation : Expectation) (output : String) (s : Session) (response : Response)
    (received : net s.sent ((ApiRoot.ofUrl base).request endpoint) = .ok response) :
    let request := (ApiRoot.ofUrl base).request endpoint
    let found := s.probe net (ApiRoot.ofUrl base) endpoint expectation output
    ExactlyOne (BodyUnwritten output response s.disk found.2.disk found.1)
        (StatusUnwritten output response s.disk found.2.disk found.1)
        (SavedAndJudged request expectation output response s.disk found.2.disk found.1) ∧
      ∀ other : Expectation,
        (s.probe net (ApiRoot.ofUrl base) endpoint other output).2.disk = found.2.disk := by
  intro request found
  obtain ⟨hresult, hafter⟩ :=
    Session.probe_spec net (ApiRoot.ofUrl base) endpoint expectation output s
  -- the reply is known, so result and files are those of `answer`
  rw [received] at hresult hafter
  have hways := answer_of_response (Prod.ext hresult.symm hafter.disk_eq.symm)
  refine ⟨?_, fun other => ?_⟩
  · rcases hways with h | h | h
    · exact .inl ⟨h, h.not_statusUnwritten, h.not_savedAndJudged⟩
    · exact .inr (.inl ⟨fun h' => h'.not_statusUnwritten h, h, h.not_savedAndJudged⟩)
    · exact .inr (.inr ⟨fun h' => h'.not_savedAndJudged h, fun h' => h'.not_savedAndJudged h, h⟩)
  · obtain ⟨-, hother⟩ := Session.probe_spec net (ApiRoot.ofUrl base) endpoint other output s
    rw [hother.disk_eq, hafter.disk_eq, received]
    exact answer_snd_eq _ _ _ _ _ _

/-- A response that came from elsewhere, with a directory in the way of the status. -/
theorem probe_ends_beside_directory :
    let response : Response := ⟨404, [], Bytes.ofText "gone", "http://elsewhere/crates/x"⟩
    let net : Network := fun _ _ => .ok response
    let s : Session := .start "/work" "/tmp" [.makeDirectories "/work/out.http"] .numbered
    let request := (ApiRoot.ofUrl "http://host//").request "/crates/x"
    let found := s.probe net (.ofUrl "http://host//") "/crates/x" .errorList "out"
    net s.sent request = .ok response ∧
      ExactlyOne (BodyUnwritten "out" response s.disk found.2.disk found.1)
        (StatusUnwritten "out" response s.disk found.2.disk found.1)
        (SavedAndJudged request .errorList "out" response s.disk found.2.disk found.1) ∧
      ∀ other : Expectation,
        (s.probe net (.ofUrl "http://host//") "/crates/x" other "out").2.disk = found.2.disk :=
  ⟨rfl, probe_ends_in_one_of_three_ways _ "http://host//" "/crates/x" .errorList "out" _ _ rfl⟩

end RegistryProbe
