import RegistryProbe.Verdict

/-! # Which responses are accepted

  A response is accepted, found to be of an unexpected status, or found not to be as expected. The
  status decides which expectation is in force, if any, and only for 200 it is the caller's.

  - `verdict_cases` lists the three ways in which a verdict can come out.
  - `Accepts` says what makes a response acceptable without the expectation in force: `accepts_iff`
    brings the two together, and `verdict_eq_ok_iff` reads it off the verdict.
  - `Judged` collects what is so of a verdict, and `verdict_judges` says that it always is.
-/

namespace RegistryProbe

variable {request : Request} {response : Response} {callers : Expectation} {d : Json}

/-! ### The expectation in force -/

namespace Expectation

variable {status : UInt16}

theorem inForce?_found (callers : Expectation) : callers.inForce? 200 = some callers := rfl

theorem inForce?_missing (callers : Expectation) : callers.inForce? 404 = some .errorList := rfl

theorem inForce?_other (h200 : status ≠ 200) (h404 : status ≠ 404) :
    callers.inForce? status = none := by
  simp [inForce?, h200, h404]

theorem inForce?_eq_none_iff : callers.inForce? status = none ↔ status ≠ 200 ∧ status ≠ 404 := by
  constructor
  · intro h
    refine ⟨?_, ?_⟩
    · rintro rfl
      cases h
    · rintro rfl
      cases h
  · intro h
    exact inForce?_other h.1 h.2

/-- The caller has no say unless the status is 200. -/
theorem inForce?_congr (h : status ≠ 200) (one other : Expectation) :
    one.inForce? status = other.inForce? status := by
  simp [inForce?, h]

/-- The registry's own expectation, without the steps in which it is looked at. -/
theorem holds_errorList_iff :
    errorList.holds d = true ↔ ∃ members errors,
      d = .object members ∧ members.lookup "errors" = some (.array errors) ∧ errors ≠ [] := by
  cases d with
  | object members =>
    show ((members.lookup "errors").bind Json.items?).any (!·.isEmpty) = true ↔ _
    rcases hlookup : members.lookup "errors" with _ | v
    · simp [hlookup]
    · cases v <;> simp [hlookup, Json.items?]
  | _ => simp [holds, Json.member?]

end Expectation

/-! ### How a verdict comes out -/

/-- The body of a response is a document on which an expectation holds. -/
def Meets (expectation : Expectation) (response : Response) (d : Json) : Prop :=
  Json.ofBytes? response.body = some d ∧ expectation.holds d = true

/-- A verdict comes out in one of three ways: no expectation is in force, the one in force is met,
    or it is not. -/
theorem verdict_cases (request : Request) (response : Response) (callers : Expectation) :
    (callers.inForce? response.status = none ∧ verdict request response callers =
      .error (.unexpectedStatus response.status request.url response.body)) ∨
    (∃ expectation d, callers.inForce? response.status = some expectation ∧
      Meets expectation response d ∧ verdict request response callers = .ok d) ∨
    ∃ expectation, callers.inForce? response.status = some expectation ∧
      (¬ ∃ d, Meets expectation response d) ∧ verdict request response callers =
        .error (.mismatch request.url expectation.text response.body) := by
  unfold verdict
  cases callers.inForce? response.status with
  | none => exact .inl ⟨rfl, rfl⟩
  | some expectation =>
    right
    cases hd : Json.ofBytes? response.body with
    | none =>
      refine .inr ⟨expectation, rfl, ?_, rfl⟩
      rintro ⟨d, hread, -⟩
      cases hd.symm.trans hread
    | some d =>
      by_cases hholds : expectation.holds d = true
      · exact .inl ⟨expectation, d, rfl, ⟨hd, hholds⟩, by simp [hholds]⟩
      · refine .inr ⟨expectation, rfl, ?_, by simp [hholds]⟩
        rintro ⟨d', hread, hholds'⟩
        -- a body is one document at most
        cases hd.symm.trans hread
        exact hholds hholds'

/-! ### What is accepted -/

/-- What makes a response acceptable with a document. -/
inductive Accepts (callers : Expectation) (response : Response) (d : Json) : Prop where
  /-- The registry has what was asked for, and the caller's expectation holds on it. -/
  | found (status : response.status = 200) (read : Json.ofBytes? response.body = some d)
      (expected : callers.holds d = true)
  /-- The registry does not have it, and says so with at least one error. -/
  | missing {members : List (String × Json)} {errors : List Json} (status : response.status = 404)
      (read : Json.ofBytes? response.body = some d) (object : d = .object members)
      (listed : members.lookup "errors" = some (.array errors)) (told : errors ≠ [])

/-- A response is acceptable if it meets the expectation in force. -/
theorem accepts_iff : Accepts callers response d ↔
    ∃ expectation, callers.inForce? response.status = some expectation ∧
      Meets expectation response d := by
  constructor
  · intro h
    cases h with
    | found status read expected =>
      exact ⟨callers, by rw [status, callers.inForce?_found], read, expected⟩
    | missing status read object listed told =>
      refine ⟨.errorList, by rw [status, callers.inForce?_missing], read, ?_⟩
      exact Expectation.holds_errorList_iff.2 ⟨_, _, object, listed, told⟩
  · rintro ⟨expectation, hforce, hread, hholds⟩
    by_cases h200 : response.status = 200
    · rw [h200, callers.inForce?_found] at hforce
      cases hforce
      exact .found h200 hread hholds
    · by_cases h404 : response.status = 404
      · rw [h404, callers.inForce?_missing] at hforce
        cases hforce
        obtain ⟨members, errors, hobject, hlisted, htold⟩ :=
          Expectation.holds_errorList_iff.1 hholds
        exact .missing h404 hread hobject hlisted htold
      · rw [Expectation.inForce?_other h200 h404] at hforce
        cases hforce

/-- A response is accepted with a document if the document makes it acceptable. -/
theorem verdict_eq_ok_iff :
    verdict request response callers = .ok d ↔ Accepts callers response d := by
  rw [accepts_iff]
  rcases verdict_cases request response callers with
    ⟨hforce, hresult⟩ | ⟨expectation, d', hforce, hmeets, hresult⟩ |
    ⟨expectation, hforce, hmisses, hresult⟩
  · constructor
    · intro h
      cases hresult.symm.trans h
    · rintro ⟨_, hforce', -⟩
      cases hforce.symm.trans hforce'
  · constructor
    · intro h
      cases hresult.symm.trans h
      exact ⟨expectation, hforce, hmeets⟩
    · rintro ⟨_, -, hread, -⟩
      -- a body is one document at most
      rw [hresult, Option.some.inj (hmeets.1.symm.trans hread)]
  · constructor
    · intro h
      cases hresult.symm.trans h
    · rintro ⟨_, hforce', hmeets⟩
      cases hforce.symm.trans hforce'
      exact absurd ⟨d, hmeets⟩ hmisses

/-- A response with status 404 that is not accepted does not have the registry's own shape. -/
theorem verdict_eq_mismatch (hstatus : response.status = 404)
    (hnot : ¬ ∃ d, verdict request response callers = .ok d) :
    verdict request response callers =
      .error (.mismatch request.url ".errors | length > 0" response.body) := by
  have hmissing : callers.inForce? response.status = some .errorList := by
    rw [hstatus, callers.inForce?_missing]
  rcases verdict_cases request response callers with
    ⟨hforce, -⟩ | ⟨_, d, -, -, hresult⟩ | ⟨expectation, hforce, -, hresult⟩
  · cases hforce.symm.trans hmissing
  · exact absurd ⟨d, hresult⟩ hnot
  · cases hforce.symm.trans hmissing
    exact hresult

/-- The text that names the expectation in force. -/
theorem text_of_inForce? {status : UInt16} {expectation : Expectation}
    (h : callers.inForce? status = some expectation) :
    (status = 200 ∨ status = 404) ∧
      expectation.text = if status = 200 then callers.text else ".errors | length > 0" := by
  by_cases h200 : status = 200
  · subst h200
    cases h
    exact ⟨.inl rfl, rfl⟩
  · by_cases h404 : status = 404
    · subst h404
      cases h
      exact ⟨.inr rfl, rfl⟩
    · rw [Expectation.inForce?_other h200 h404] at h
      cases h

/-! ### The verdict as a whole -/

/-- What is so of the verdict on a response. -/
structure Judged (request : Request) (response : Response) (callers : Expectation)
    (result : Except ProbeError Json) : Prop where
  /-- The documents of acceptable responses are accepted, and no others. -/
  accepted_iff : ∀ d, result = .ok d ↔ Accepts callers response d
  /-- The status is unexpected if it is neither 200 nor 404, whatever the body. -/
  unexpected_iff : ∀ status url body, result = .error (.unexpectedStatus status url body) ↔
    response.status ≠ 200 ∧ response.status ≠ 404 ∧
      status = response.status ∧ url = request.url ∧ body = response.body
  /-- In all other cases the body is not as expected. The failure names the address that was asked
      and the expectation that was in force. -/
  mismatch_iff : ∀ url expectation body, result = .error (.mismatch url expectation body) ↔
    (response.status = 200 ∨ response.status = 404) ∧ (¬ ∃ d, Accepts callers response d) ∧
      url = request.url ∧ body = response.body ∧
      expectation = if response.status = 200 then callers.text else ".errors | length > 0"
  /-- A verdict fails in no other way. -/
  no_other : ∀ e, result = .error e →
    (∃ status url body, e = .unexpectedStatus status url body) ∨
      ∃ url expectation body, e = .mismatch url expectation body
  /-- Unless the status is 200, another expectation of the caller changes nothing. -/
  callers_unheard : response.status ≠ 200 → ∀ other, verdict request response other = result

/-- Unless the status is 200, two callers get one verdict. -/
theorem verdict_congr (h : response.status ≠ 200) (one other : Expectation) :
    verdict request response one = verdict request response other := by
  unfold verdict
  rw [Expectation.inForce?_congr h one other]

/-- No expectation is in force. -/
theorem judged_unexpected (hforce : callers.inForce? response.status = none)
    (hunheard : response.status ≠ 200 → ∀ other, verdict request response other =
      .error (.unexpectedStatus response.status request.url response.body)) :
    Judged request response callers
      (.error (.unexpectedStatus response.status request.url response.body)) := by
  obtain ⟨h200, h404⟩ := Expectation.inForce?_eq_none_iff.1 hforce
  have hnone : ∀ d, ¬ Accepts callers response d := by
    intro d h
    obtain ⟨_, hsome, -⟩ := accepts_iff.1 h
    cases hforce.symm.trans hsome
  refine ⟨by simp [hnone], ?_, ?_, ?_, hunheard⟩
  · intro status url body
    simp [h200, h404, eq_comm]
  · intro url expectation body
    simp [h200, h404]
  · rintro e ⟨⟩
    exact .inl ⟨_, _, _, rfl⟩

/-- The expectation in force is met. -/
theorem judged_accepted {expectation : Expectation}
    (hforce : callers.inForce? response.status = some expectation)
    (hmeets : Meets expectation response d)
    (hunheard : response.status ≠ 200 → ∀ other, verdict request response other = .ok d) :
    Judged request response callers (.ok d) := by
  have hstatus := (text_of_inForce? hforce).1
  -- a body is one document at most, so no other is accepted
  have haccepts : ∀ d', Accepts callers response d' ↔ d' = d := by
    intro d'
    rw [accepts_iff]
    constructor
    · rintro ⟨_, -, hread, -⟩
      exact Option.some.inj (hread.symm.trans hmeets.1)
    · rintro rfl
      exact ⟨expectation, hforce, hmeets⟩
  refine ⟨?_, ?_, ?_, by simp, hunheard⟩
  · intro d'
    rw [haccepts, Except.ok.injEq, eq_comm]
  · intro status url body
    rcases hstatus with h | h <;> simp [h]
  · intro url text body
    simp [haccepts]

/-- The expectation in force is not met. -/
theorem judged_mismatch {expectation : Expectation}
    (hforce : callers.inForce? response.status = some expectation)
    (hmisses : ¬ ∃ d, Meets expectation response d)
    (hunheard : response.status ≠ 200 → ∀ other, verdict request response other =
      .error (.mismatch request.url expectation.text response.body)) :
    Judged request response callers
      (.error (.mismatch request.url expectation.text response.body)) := by
  obtain ⟨hstatus, htext⟩ := text_of_inForce? hforce
  have hnone : ¬ ∃ d, Accepts callers response d := by
    rintro ⟨d, h⟩
    obtain ⟨expectation', hforce', hmeets⟩ := accepts_iff.1 h
    cases hforce.symm.trans hforce'
    exact hmisses ⟨d, hmeets⟩
  refine ⟨?_, ?_, ?_, ?_, hunheard⟩
  · intro d
    simp [not_exists.1 hnone d]
  · intro status url body
    rcases hstatus with h | h <;> simp [h]
  · intro url text body
    simp only [Except.error.injEq, ProbeError.mismatch.injEq, htext]
    constructor
    · rintro ⟨rfl, rfl, rfl⟩
      exact ⟨hstatus, hnone, rfl, rfl, rfl⟩
    · rintro ⟨-, -, rfl, rfl, rfl⟩
      exact ⟨rfl, rfl, rfl⟩
  · rintro e ⟨⟩
    exact .inr ⟨_, _, _, rfl⟩

/-- A response is judged by its status, by its document and, for status 200 alone, by the caller's
    expectation. -/
theorem verdict_judges (request : Request) (response : Response) (callers : Expectation) :
    Judged request response callers (verdict request response callers) := by
  have hunheard (h : response.status ≠ 200) (other : Expectation) :
      verdict request response other = verdict request response callers :=
    verdict_congr h other callers
  rcases verdict_cases request response callers with
    ⟨hforce, hresult⟩ | ⟨expectation, d, hforce, hmeets, hresult⟩ |
    ⟨expectation, hforce, hmisses, hresult⟩
  · rw [hresult] at hunheard ⊢
    exact judged_unexpected hforce hunheard
  · rw [hresult] at hunheard ⊢
    exact judged_accepted hforce hmeets hunheard
  · rw [hresult] at hunheard ⊢
    exact judged_mismatch hforce hmisses hunheard

end RegistryProbe
