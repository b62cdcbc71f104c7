import RegistryProbe.LogLine
import RegistryProbe.Proofs.Probe.Truncation
import RegistryProbe.Proofs.Uri.Printing
import RegistryProbe.Wire

/-! # The address of a response

  A response carries the printed form of the URI that answered, and a probe compares it with the
  address it asked for, as texts. So an answer that came without any redirect is taken for a
  redirected one if the address was not in the printed form: because of a fragment, of a scheme in
  upper case or of an empty path.

  - `AnswersInPlace` says that a request is answered without a redirect. An agent on a wire does so
    if the reply names no location: `answersInPlace_of_no_location`.
  - A probe logs one warning if it takes the response for redirected, and none otherwise:
    `warnings_probe`.
  - `Located` collects what becomes of a request that is answered in place, and
    `located_of_answersInPlace` says that it always does.
-/

namespace RegistryProbe

open Files

/-! ### Answers without a redirect -/

/-- An agent accepts a request for a URI, and what answers it is this URI. -/
structure AnswersInPlace (agent : Agent) (request : Request) (u : Uri) (d : Delivery) : Prop where
  accepted : Agent.target agent.name request = .ok u
  answered : agent.ask u = .ok d
  in_place : d.servedFrom = u
  whole : d.broken = none

namespace Wire

variable {u : Uri} {d : Delivery} {reply : Bytes}

/-- A reply is served from the URI that was asked. -/
theorem servedFrom_of_delivery (h : delivery u reply = .ok d) : d.servedFrom = u := by
  unfold delivery at h
  split at h
  next => cases h
  next =>
    split at h
    next => cases h
    next =>
      split at h
      next =>
        cases h
        rfl
      next => cases h

/-- A reply that names no location is the last one. -/
theorem ask_of_no_location {m : Type → Type} [Monad m] [LawfulMonad m]
    {converse : Uri → m (Except TransportCause Bytes)} (hreply : converse u = pure (.ok reply))
    (hdelivery : delivery u reply = .ok d) (hlocation : Delivery.location? d = none)
    (redirects : Nat) : ask converse redirects u = pure (.ok d) := by
  unfold ask
  simp [hreply, hdelivery, hlocation]

end Wire

variable {agent : Agent} {request : Request} {u : Uri} {d : Delivery}

/-- The agent of a name on a wire on which every URI has its own reply. -/
def wireAgent (name : String) (replies : Uri → Except TransportCause Bytes) : Agent :=
  ⟨name, fun u => Wire.ask (m := Id) (fun u => pure (replies u)) Wire.maxRedirects u⟩

/-- On a wire a request is answered in place if the reply is whole and names no location. -/
theorem answersInPlace_of_no_location {name : String}
    {replies : Uri → Except TransportCause Bytes} {reply : Bytes}
    (accepted : Agent.target name request = .ok u) (hreply : replies u = .ok reply)
    (hdelivery : Wire.delivery u reply = .ok d) (hlocation : Wire.Delivery.location? d = none)
    (whole : d.broken = none) : AnswersInPlace (wireAgent name replies) request u d where
  accepted := accepted
  answered := Wire.ask_of_no_location (m := Id) (congrArg pure hreply) hdelivery hlocation
    Wire.maxRedirects
  in_place := Wire.servedFrom_of_delivery hdelivery
  whole := whole

/-- When a request is accepted: its address is a URI, its headers and the agent's own name can be
    sent, and the scheme stands for a service. -/
theorem target_eq_ok_iff {name : String} :
    Agent.target name request = .ok u ↔
      Uri.read request.url = .ok u ∧ request.headers.findSome? headerFault? = none ∧
        (request.agentName? name).any (!isHeaderValue ·) = false ∧
        ∃ scheme service, u.scheme = some scheme ∧ Agent.service? scheme = some service := by
  constructor
  · intro h
    unfold Agent.target at h
    split at h
    next => cases h
    next => cases h
    next hread hheaders =>
      split at h
      next => cases h
      next hname =>
        split at h
        next => cases h
        next scheme hscheme =>
          split at h
          next service hservice =>
            cases h
            exact ⟨hread, hheaders, Bool.eq_false_iff.2 hname, scheme, service, hscheme, hservice⟩
          next => cases h
  · rintro ⟨hread, hheaders, hname, scheme, service, hscheme, hservice⟩
    rw [Agent.target, hread, hheaders]
    dsimp only
    rw [hname, if_neg Bool.false_ne_true, hscheme]
    dsimp only
    rw [hservice]

theorem execute_of_answersInPlace (h : AnswersInPlace agent request u d) :
    agent.execute request = .ok d.response := by
  have hreply : agent.reply request = .ok d := by
    unfold Agent.reply
    rw [h.accepted]
    exact h.answered
  exact execute_of_whole hreply h.whole

/-! ### Warnings -/

/-- The warning that an event leaves in the log. -/
def Event.warning? (e : Event) : Option LogLine := e.logLine?.filter (·.level = .warn)

/-- The warning that a request was redirected. -/
def redirectWarning (url finalUrl : String) : LogLine :=
  ⟨.probe, .warn, "request was redirected", [("url", url), ("final_url", finalUrl)]⟩

namespace Session

variable {s : Session} {net : Network} {root : ApiRoot} {endpoint output : String}
  {expectation : Expectation} {response : Response}

/-- The warnings in the log, the earliest first. -/
def warnings (s : Session) : List LogLine := s.journal.filterMap Event.warning?

theorem warnings_note (s : Session) (e : Event) :
    (s.note e).warnings = s.warnings ++ e.warning?.toList :=
  filterMap_journal_note Event.warning? s e

theorem warnings_save (output : String) (response : Response) (s : Session) :
    (s.save output response).2.warnings = s.warnings := by
  unfold save write
  cases s.disk.write output response.body with
  | error f => rfl
  | ok d =>
    dsimp only
    cases d.write (statusPath output) (statusBytes response.status) with
    | error f => rfl
    | ok d' =>
      show (note _ (.saved ..)).warnings = _
      rw [warnings_note]
      exact List.append_nil _

theorem warnings_judge (request : Request) (response : Response) (expectation : Expectation)
    (s : Session) : (s.judge request response expectation).2.warnings = s.warnings := by
  unfold judge
  cases verdict request response expectation with
  | ok d =>
    show (s.note (.accepted ..)).warnings = _
    rw [warnings_note]
    exact List.append_nil _
  | error e =>
    dsimp only
    split
    next =>
      rw [warnings_note]
      exact List.append_nil _
    next => rfl

theorem warnings_send {net : Network} {request : Request} (h : net s.sent request = .ok response) :
    (s.send net request).1 = .ok response ∧
      (s.send net request).2.warnings = s.warnings := by
  unfold send
  rw [h]
  refine ⟨rfl, ?_⟩
  dsimp only
  rw [warnings_note, warnings_note, List.append_assoc]
  exact List.append_nil _

theorem warnings_noteRedirect (request : Request) (response : Response) (s : Session) :
    (s.noteRedirect request response).warnings = s.warnings ++
      if response.wasRedirected request.url then [redirectWarning request.url response.finalUrl]
      else [] := by
  unfold noteRedirect
  split
  next => rw [warnings_note]; rfl
  next => rw [List.append_nil]

/-- A probe that is answered warns of a redirect if the response seems to come from elsewhere, and
    of nothing else. -/
theorem warnings_probe (h : net s.sent (root.request endpoint) = .ok response) :
    (s.probe net root endpoint expectation output).2.warnings = s.warnings ++
      if response.wasRedirected (root.request endpoint).url then
        [redirectWarning (root.request endpoint).url response.finalUrl]
      else [] := by
  obtain ⟨hreply, hsent⟩ := warnings_send h
  unfold probe
  dsimp only
  generalize s.send net (root.request endpoint) = sending at hreply hsent ⊢
  obtain ⟨reply, s₁⟩ := sending
  subst hreply
  dsimp only at hsent ⊢
  rw [← hsent, ← warnings_noteRedirect]
  have hsave := warnings_save output response (s₁.noteRedirect (root.request endpoint) response)
  generalize (s₁.noteRedirect (root.request endpoint) response).save output response = saving
    at hsave ⊢
  obtain ⟨saved, s₂⟩ := saving
  rw [← hsave]
  cases saved with
  | error e => rfl
  | ok _ =>
    have hjudge := warnings_judge (root.request endpoint) response expectation s₂
    dsimp only
    generalize s₂.judge (root.request endpoint) response expectation = judging at hjudge ⊢
    obtain ⟨judged, s₃⟩ := judging
    cases judged with
    | error e => exact hjudge
    | ok doc => exact hjudge

end Session

/-- What is found in a response names the address asked and the address of the response. -/
theorem addresses_of_answer {output : String} {expectation : Expectation} {response : Response}
    {disk : Disk} {o : Outcome}
    (h : (answer request expectation output (.ok response) disk).1 = .ok o) :
    o.url = request.url ∧ o.finalUrl = response.finalUrl := by
  unfold answer at h
  dsimp only at h
  split at h
  next => cases h
  next =>
    obtain ⟨doc, -, rfl⟩ := ok_map_iff.1 h
    exact ⟨rfl, rfl⟩

/-! ### The theorem -/

/-- What becomes of a request that is answered in place from a URI. -/
structure Located (agent : Agent) (request : Request) (u : Uri) : Prop where
  /-- A response arrives. It carries the text of the URI, which is the address exactly if the
      address is in the printed form; otherwise it counts as redirected. -/
  response : ∃ response, agent.execute request = .ok response ∧ response.finalUrl = u.text ∧
    (response.finalUrl = request.url ↔ Uri.IsPrinted request.url) ∧
    (response.wasRedirected request.url = false ↔ Uri.IsPrinted request.url)
  /-- A probe that makes the request warns of a redirect unless the address is in the printed
      form. -/
  warnings : ∀ (root : ApiRoot) (endpoint : String) (expectation : Expectation) (output : String)
    (s : Session), root.request endpoint = request →
    (s.probe agent.network root endpoint expectation output).2.warnings = s.warnings ++
      if Uri.IsPrinted request.url then [] else [redirectWarning request.url u.text]
  /-- An outcome of such a probe has the same two addresses exactly if the one asked is in the
      printed form. -/
  outcome : ∀ (root : ApiRoot) (endpoint : String) (expectation : Expectation) (output : String)
    (s : Session) (o : Outcome), root.request endpoint = request →
    (s.probe agent.network root endpoint expectation output).1 = .ok o →
    o.url = request.url ∧ o.finalUrl = u.text ∧ (o.finalUrl = o.url ↔ Uri.IsPrinted request.url)

/-- A request that is answered without a redirect seems not to be redirected exactly if its address
    is in the printed form. -/
theorem located_of_answersInPlace (agent : Agent) (request : Request) (u : Uri) (d : Delivery)
    (answers : AnswersInPlace agent request u d) : Located agent request u := by
  obtain ⟨hread, -, -, scheme, -, hscheme, -⟩ := target_eq_ok_iff.1 answers.accepted
  have htext := Uri.text_eq_iff hread hscheme
  have hexecute := execute_of_answersInPlace answers
  have hfinal : d.response.finalUrl = u.text := congrArg Uri.text answers.in_place
  have hredirected : d.response.wasRedirected request.url = false ↔ Uri.IsPrinted request.url := by
    simp [Response.wasRedirected, hfinal, htext]
  refine ⟨⟨_, hexecute, hfinal, by rw [hfinal, htext], hredirected⟩, ?_, ?_⟩
  · rintro root endpoint expectation output s rfl
    have hreply : agent.network s.sent (root.request endpoint) = .ok d.response := hexecute
    rw [Session.warnings_probe hreply, hfinal]
    by_cases hprinted : Uri.IsPrinted (root.request endpoint).url
    · simp [hprinted, hredirected.2 hprinted]
    · have : d.response.wasRedirected (root.request endpoint).url = true := by
        simpa [hprinted] using hredirected
      simp [hprinted, this]
  · rintro root endpoint expectation output s o rfl hprobe
    have hreply : agent.network s.sent (root.request endpoint) = .ok d.response := hexecute
    rw [(Session.probe_spec ..).1, hreply] at hprobe
    obtain ⟨hurl, hfinalUrl⟩ := addresses_of_answer hprobe
    refine ⟨hurl, hfinalUrl.trans hfinal, ?_⟩
    rw [hurl, hfinalUrl, hfinal, htext]

/-! ### An address with a fragment -/

/-- The request for an address with a fragment. -/
def fragmentRequest : Request := (ApiRoot.ofUrl "http://host").request "crates/serde#readme"

/-- The URI that is read from the address. -/
def fragmentUri : Uri := ⟨some "http", "host", "/crates/serde", none⟩

/-- A reply that redirects nobody. -/
def plainReply : Bytes := Bytes.ofText "HTTP/1.1 200 OK\r\ncontent-length: 2\r\n\r\n{}"

/-- An agent on a wire on which every request gets this reply. -/
def plainAgent : Agent := wireAgent "" fun _ => .ok plainReply

theorem plainReply_delivery :
    Wire.delivery fragmentUri plainReply =
      .ok ⟨200, [("content-length", [0x32])], fragmentUri, [Bytes.ofText "{}"], none⟩ := rfl

theorem plainAgent_answersInPlace :
    AnswersInPlace plainAgent fragmentRequest fragmentUri
      ⟨200, [("content-length", [0x32])], fragmentUri, [Bytes.ofText "{}"], none⟩ := by
  have accepted : Agent.target "" fragmentRequest = .ok fragmentUri :=
    target_eq_ok_iff.2 ⟨rfl, rfl, rfl, "http", 80, rfl, by decide +kernel⟩
  exact answersInPlace_of_no_location accepted rfl plainReply_delivery rfl rfl

/-- The address with a fragment, answered without a redirect. -/
theorem located_of_fragment :
    AnswersInPlace plainAgent fragmentRequest fragmentUri
        ⟨200, [("content-length", [0x32])], fragmentUri, [Bytes.ofText "{}"], none⟩ ∧
      Located plainAgent fragmentRequest fragmentUri :=
  ⟨plainAgent_answersInPlace, located_of_answersInPlace _ _ _ _ plainAgent_answersInPlace⟩

/-- A response that came without a redirect may carry another address than the one asked, and then
    it counts as redirected. -/
theorem redirected_without_redirect :
    ¬ ∀ (agent : Agent) (request : Request) (u : Uri) (d : Delivery) (response : Response),
      AnswersInPlace agent request u d → agent.execute request = .ok response →
      response.finalUrl = request.url ∧ response.wasRedirected request.url = false := by
  intro h
  have hsame := (h plainAgent fragmentRequest fragmentUri _ _ plainAgent_answersInPlace
    (execute_of_answersInPlace plainAgent_answersInPlace)).1
  have hdiffer : fragmentUri.text ≠ fragmentRequest.url := by decide +kernel
  exact hdiffer hsame

end RegistryProbe
