import RegistryProbe.Envelope
import RegistryProbe.Json.RoundTrip
import RegistryProbe.Proofs.DemoRegistry.Answering
import RegistryProbe.Proofs.Probe.Judging
import RegistryProbe.Proofs.Selector.Composing

/-! # The demonstration registry and its clients agree

  A client asks the demonstration registry for the description of a crate and judges the answer
  under the expectation `.crate.name`.

  - The documents of the registry are read as they were written: `ofBytes?_description`,
    `ofBytes?_notFound`.
  - `Answer.TellsErrors` says of an answer that a client may take it for a missing crate. Of the
    answers with status 404 only those about crates are of this kind: `tellsErrors_iff`.
  - `Agrees` collects what is so of an answer and its verdict, and `demo_registry_agrees` says that
    it always is.
-/

namespace RegistryProbe.DemoRegistry

variable {seed : List Crate} {uri : Uri} {name spelling : String} {c : Crate} {answer : Answer}

/-! ### The expectation -/

/-- The expectation `.crate.name`. -/
def crateName : Expectation := .at ⟨".crate.name", [.field "crate", .field "name"]⟩

theorem read_crateName : Expectation.read ".crate.name" = .ok crateName := by
  have htext : ".crate.name" = String.ofList (Selector.wordsText ["crate", "name"]) := by decide
  rw [crateName, htext, Expectation.read,
    Selector.read_wordsText ["crate", "name"] (by decide) (by decide)]
  rfl

/-! ### The documents -/

theorem Answer.status_ofDocument (status : UInt16) (d : Json) :
    (Answer.ofDocument status d).status = status := rfl

theorem Answer.body_ofDocument (status : UInt16) (d : Json) :
    (Answer.ofDocument status d).body = d.toBytes := rfl

theorem crateAnswer_of_find? (h : find? seed name = some c) :
    crateAnswer seed name = .ofDocument 200 (description c) := by
  rw [crateAnswer, h]

/-- The description of a crate is read as it was written. -/
theorem ofBytes?_description (c : Crate) :
    Json.ofBytes? (description c).toBytes = some (description c) := by
  have hordered : (description c).ordered = description c := by
    simp only [description, Json.ordered, Json.orderedMembers]
    rw [Json.ofMembers_pair (by decide) (by decide)]
    rfl
  have hdepth : (description c).depth ≤ Json.maxDepth := by
    simp [description, Json.depth, Json.membersDepth, Json.maxDepth]
  rw [Json.ofBytes?_toBytes rfl hdepth, hordered]

theorem holds_description (c : Crate) : crateName.holds (description c) = true := rfl

/-- The answer for what the registry does not have is read as it was written. -/
theorem ofBytes?_notFound : Json.ofBytes? notFound.body =
    some (.object [("errors", .array [.object [("detail", .text "Not Found")]])]) :=
  Json.ofBytes?_toBytes rfl (by decide)

theorem ofBytes?_broken : Json.ofBytes? brokenAnswer.body =
    some (.object [("errors", .array [])]) :=
  Json.ofBytes?_toBytes rfl (by decide)

/-- The text of an answer with a given status is no document. -/
theorem ofBytes?_maintenance : Json.ofBytes? (Bytes.ofText "maintenance\r\n\x1b[0m") = none :=
  Option.isNone_iff_eq_none.1 (by decide +kernel)

theorem ofBytes?_nil : Json.ofBytes? [] = none :=
  Option.isNone_iff_eq_none.1 (by decide +kernel)

/-! ### Answers that tell errors -/

/-- An answer carries a document that tells at least one error. -/
def Answer.TellsErrors (a : Answer) : Prop :=
  ∃ members errors, Json.ofBytes? a.body = some (.object members) ∧
    members.lookup "errors" = some (.array errors) ∧ errors ≠ []

theorem tellsErrors_notFound : notFound.TellsErrors :=
  ⟨_, _, ofBytes?_notFound, rfl, by simp⟩

theorem not_tellsErrors_of_ofBytes? {body : Bytes} (h : Json.ofBytes? body = none)
    (hbody : answer.body = body) : ¬ answer.TellsErrors := by
  rintro ⟨members, errors, hread, -⟩
  rw [hbody, h] at hread
  cases hread

theorem status_largeAnswer {mib : Nat} (h : largeAnswer mib = .ok answer) :
    answer.status = 200 := by
  obtain ⟨text, -, rfl⟩ := ok_map_iff.1 h
  rfl

/-- Apart from the descriptions of crates, no answer with status 404 tells an error. -/
theorem not_tellsErrors_of_route {route : Route} (hroute : ∀ name, route ≠ .crates name)
    (h : route.answer seed = .ok answer) (hstatus : answer.status = 404) :
    ¬ answer.TellsErrors := by
  cases route with
  | crates name => exact absurd rfl (hroute name)
  | moved name =>
    -- the client is sent on, or the parameter is refused
    exfalso
    rw [Route.answer] at h
    rcases withParameter_cases "name" name fun value => .ok (movedAnswer value) with
      ⟨value, -, hmoved⟩ | ⟨refusal, hmoved, hrefused⟩
    · cases hmoved.symm.trans h
      rw [movedAnswer] at hstatus
      split at hstatus <;> cases hstatus
    · cases hmoved.symm.trans h
      cases hrefused.symm.trans hstatus
  | status code =>
    rw [Route.answer] at h
    rcases withNumber_cases "code" "u16" code UInt16.size fun n => .ok (statusAnswer n) with
      ⟨n, hcode⟩ | ⟨refusal, hcode, hrefused⟩
    · cases hcode.symm.trans h
      unfold statusAnswer at hstatus ⊢
      split at hstatus
      next hn =>
        rw [if_pos hn]
        exact not_tellsErrors_of_ofBytes? ofBytes?_maintenance rfl
      next => cases hstatus
    · cases hcode.symm.trans h
      cases hrefused.symm.trans hstatus
  | broken =>
    cases h
    rintro ⟨members, errors, hread, hlisted, htold⟩
    cases ofBytes?_broken.symm.trans hread
    cases hlisted
    exact htold rfl
  | large mib =>
    exfalso
    rw [Route.answer] at h
    rcases withNumber_cases "mib" "u64" mib UInt64.size largeAnswer with
      ⟨n, hlarge⟩ | ⟨refusal, hlarge, hrefused⟩
    · cases (status_largeAnswer (hlarge.symm.trans h)).symm.trans hstatus
    · cases hlarge.symm.trans h
      cases hrefused.symm.trans hstatus

/-! ### Answers to requests for documents -/

/-- A request for the description of a crate that the registry does not have. -/
def AsksUnseeded (seed : List Crate) (uri : Uri) : Prop :=
  ∃ spelling name, uri.effectivePath = "/api/v1/crates/" ++ spelling ∧ spelling ≠ "" ∧
    '/' ∉ spelling.toList ∧ Uri.Percent.text? spelling = some name ∧ ∀ c ∈ seed, c.name ≠ name

theorem respond_crates {encoded : String}
    (hroute : route? uri.effectivePath = some (.crates encoded))
    (hname : Uri.Percent.text? encoded = some name) :
    respond seed "GET" uri = .ok (crateAnswer seed name) := by
  rw [respond_of_route hroute, Route.answer, withParameter_of_text? hname]

theorem respond_unseeded (h : AsksUnseeded seed uri) : respond seed "GET" uri = .ok notFound := by
  obtain ⟨spelling, name, hpath, hne, hslash, hname, hunseeded⟩ := h
  rw [respond_crates (route?_eq_crates_iff.2 ⟨hpath, hne, hslash⟩) hname, crateAnswer,
    find?_eq_none_iff.2 hunseeded]

/-- An answer with status 404 tells errors if it is about a crate that the registry does not have,
    and only then. -/
theorem tellsErrors_iff (h : respond seed "GET" uri = .ok answer) (hstatus : answer.status = 404) :
    answer.TellsErrors ↔ AsksUnseeded seed uri := by
  constructor
  · intro htells
    rw [respond_get] at h
    cases hroute : route? uri.effectivePath with
    | none =>
      rw [hroute] at h
      cases h
      exact absurd htells (not_tellsErrors_of_ofBytes? ofBytes?_nil rfl)
    | some route =>
      rw [hroute] at h
      dsimp only at h
      by_cases hcrates : ∃ encoded, route = .crates encoded
      · obtain ⟨encoded, rfl⟩ := hcrates
        obtain ⟨hpath, hne, hslash⟩ := route?_eq_crates_iff.1 hroute
        rw [Route.answer] at h
        rcases withParameter_cases "name" encoded fun value => .ok (crateAnswer seed value) with
          ⟨name, hname, hanswer⟩ | ⟨refusal, hanswer, hrefused⟩
        · cases hanswer.symm.trans h
          refine ⟨encoded, name, hpath, hne, hslash, hname, find?_eq_none_iff.1 ?_⟩
          unfold crateAnswer at hstatus
          split at hstatus
          next => cases hstatus
          next hnone => exact hnone
        · cases hanswer.symm.trans h
          cases hrefused.symm.trans hstatus
      · refine absurd htells (not_tellsErrors_of_route ?_ h hstatus)
        rintro name rfl
        exact hcrates ⟨name, rfl⟩
  · intro hasks
    cases (respond_unseeded hasks).symm.trans h
    exact tellsErrors_notFound

/-! ### The theorem -/

/-- An answer as it reaches a client, with the headers and the address that it gets on the way. -/
def Answer.received (a : Answer) (headers : List (String × String)) (finalUrl : String) :
    Response :=
  ⟨a.status, headers, a.body, finalUrl⟩

/-- A path asks for the description of a crate by one of the spellings of its name. -/
structure Spells (uri : Uri) (name : String) : Prop where
  nonempty : name ≠ ""
  spelling : ∃ spelling, uri.effectivePath = "/api/v1/crates/" ++ spelling ∧
    '/' ∉ spelling.toList ∧ Uri.Percent.Spells (Bytes.ofText name) spelling.toList

/-- What a client that asks for a document gets, and what it makes of the answer. -/
structure Agrees (seed : List Crate) (uri : Uri) (url : String)
    (outcome : Except Breakdown Answer) (judge : Answer → Except ProbeError Json) : Prop where
  /-- It is answered, unless it asks for a document that is too large. -/
  answered_iff : (∃ answer, outcome = .ok answer) ↔ ∀ mib, AsksForLarge uri mib → mib < 2 ^ 43
  /-- A crate of the seed is described, by the last one of its name. -/
  found : ∀ name, Spells uri name → (∃ c ∈ seed, c.name = name) →
    ∃ answer, outcome = .ok answer ∧ answer.status = 200 ∧
      ∃ c d, IsLast seed name c ∧ judge answer = .ok d ∧
        d.member? "crate" =
          some (.object [("max_version", .text c.maxVersion), ("name", .text name)])
  /-- A crate that is not in the seed is missing, and the client is told so. -/
  missing : ∀ name, Spells uri name → (∀ c ∈ seed, c.name ≠ name) →
    ∃ answer, outcome = .ok answer ∧ answer.status = 404 ∧
      ∃ d, judge answer = .ok d ∧ Envelope.details d = ["Not Found"]
  /-- An answer with status 404 is accepted if it is about a crate that is not in the seed, and only
      then. -/
  accepted_iff : ∀ answer, outcome = .ok answer → answer.status = 404 →
    ((∃ d, judge answer = .ok d) ↔ AsksUnseeded seed uri)
  /-- Any other one does not have the registry's own shape. -/
  mismatch : ∀ answer, outcome = .ok answer → answer.status = 404 → ¬ AsksUnseeded seed uri →
    judge answer = .error (.mismatch url ".errors | length > 0" answer.body)

/-- A spelling of a name leads to the answer for the name. -/
theorem respond_of_spells (h : Spells uri name) :
    respond seed "GET" uri = .ok (crateAnswer seed name) := by
  obtain ⟨hname, spelling, hpath, hslash, hspells⟩ := h
  have hne := Uri.Percent.ne_empty_of_spells hspells hname
  exact respond_crates (route?_eq_crates_iff.2 ⟨hpath, hne, hslash⟩)
    (Uri.Percent.text?_of_spells hspells)

/-- An answer with status 404 is accepted if it tells errors. -/
theorem verdict_ok_iff_tellsErrors {request : Request} {response : Response}
    {callers : Expectation} (hstatus : response.status = 404)
    (hbody : response.body = answer.body) :
    (∃ d, verdict request response callers = .ok d) ↔ answer.TellsErrors := by
  constructor
  · rintro ⟨d, hd⟩
    cases verdict_eq_ok_iff.1 hd with
    | found status => cases hstatus.symm.trans status
    | @missing members errors _ read object listed told =>
      subst object
      exact ⟨members, errors, hbody ▸ read, listed, told⟩
  · rintro ⟨members, errors, hread, hlisted, htold⟩
    exact ⟨_, verdict_eq_ok_iff.2 (.missing hstatus (hbody ▸ hread) rfl hlisted htold)⟩

theorem body_received_ofDocument (status : UInt16) (d : Json) (headers : List (String × String))
    (finalUrl : String) :
    ((Answer.ofDocument status d).received headers finalUrl).body = d.toBytes := rfl

/-- A client accepts the description of a crate. -/
theorem verdict_description (request : Request) (headers : List (String × String))
    (finalUrl : String) (c : Crate) :
    verdict request ((Answer.ofDocument 200 (description c)).received headers finalUrl) crateName =
      .ok (description c) := by
  have hread : Json.ofBytes?
      ((Answer.ofDocument 200 (description c)).received headers finalUrl).body =
        some (description c) := by
    rw [body_received_ofDocument, ofBytes?_description]
  exact verdict_eq_ok_iff.2 (.found rfl hread (holds_description c))

/-- A client accepts the answer for what the registry does not have. -/
theorem verdict_notFound (request : Request) (headers : List (String × String))
    (finalUrl : String) :
    ∃ d, verdict request (notFound.received headers finalUrl) crateName = .ok d ∧
      Envelope.details d = ["Not Found"] := by
  refine ⟨_, verdict_eq_ok_iff.2 (.missing rfl ofBytes?_notFound rfl rfl (by simp)), ?_⟩
  decide

/-- The demonstration registry and a client that expects `.crate.name` agree: the client gets the
    description of a crate that is there and is told of one that is missing, and it takes no other
    answer with status 404 for that of a missing crate. -/
theorem demo_registry_agrees (seed : List Crate) (uri : Uri) (request : Request)
    (headers : List (String × String)) (finalUrl : String) :
    Expectation.read ".crate.name" = .ok crateName ∧
      Agrees seed uri request.url (respond seed "GET" uri)
        (fun answer => verdict request (answer.received headers finalUrl) crateName) := by
  have haccepted (answer : Answer) (h : respond seed "GET" uri = .ok answer)
      (hstatus : answer.status = 404) :
      (∃ d, verdict request (answer.received headers finalUrl) crateName = .ok d) ↔
        AsksUnseeded seed uri :=
    (verdict_ok_iff_tellsErrors hstatus rfl).trans (tellsErrors_iff h hstatus)
  refine ⟨read_crateName, answered_iff, ?_, ?_, haccepted, ?_⟩
  · rintro name hspells ⟨c', hc', hname'⟩
    refine ⟨_, respond_of_spells hspells, ?_⟩
    rw [crateAnswer]
    cases hfind : find? seed name with
    | none => exact absurd hname' (find?_eq_none_iff.1 hfind c' hc')
    | some c =>
      have hlast := find?_eq_some_iff.1 hfind
      have ⟨_, _, _, hname, _⟩ := hlast
      refine ⟨rfl, c, description c, hlast, verdict_description request headers finalUrl c, ?_⟩
      rw [← hname]
      rfl
  · intro name hspells hunseeded
    refine ⟨_, respond_of_spells hspells, ?_⟩
    rw [crateAnswer, find?_eq_none_iff.2 hunseeded]
    exact ⟨rfl, verdict_notFound request headers finalUrl⟩
  · intro answer h hstatus hnot
    exact verdict_eq_mismatch hstatus (mt (haccepted answer h hstatus).1 hnot)

end RegistryProbe.DemoRegistry
