import RegistryProbe.Agent
import RegistryProbe.Proofs.Probe.Judging
import RegistryProbe.Proofs.Probe.Saving

/-! # Bodies that break off

  A body arrives in readings. Each gives a piece, until one finds the end or fails. A body that
  fails may look like a whole answer up to there, and still nothing is made of it.

  - The body is copied reading by reading. Pieces are copied as they come, and a failure behind them
    is all that is left of them: `copyReadings_pieces`, `copyReadings_pieces_error`.
  - A round trip comes to what this copying comes to: `execute_of_reply`.
  - A round trip that fails leaves a probe with nothing but the request in the journal:
    `probe_of_error`.
  - `TakenWhole` says that the body of a response is taken whole or not at all, by the round trip,
    by the files and by the verdict. `bodies_are_taken_whole` says that this is always so.
-/

namespace RegistryProbe

open Files

/-! ### Copying a body -/

/-- A piece is copied, and the next reading follows. -/
theorem foldlM_ok_cons (copied piece : Bytes) (readings : List (Except String Bytes)) :
    (.ok piece :: readings).foldlM takeReading copied =
      readings.foldlM takeReading (copied ++ piece) := rfl

/-- After a failure nothing is read. -/
theorem foldlM_error_cons (copied : Bytes) (cause : String)
    (readings : List (Except String Bytes)) :
    (.error cause :: readings).foldlM takeReading copied = .error cause := rfl

/-- After some pieces exactly they have been copied, and the copying goes on from there. -/
theorem foldlM_pieces_append (copied : Bytes) (pieces : List Bytes)
    (readings : List (Except String Bytes)) :
    (pieces.map Except.ok ++ readings).foldlM takeReading copied =
      readings.foldlM takeReading (copied ++ pieces.flatten) := by
  induction pieces generalizing copied with
  | nil => simp
  | cons piece pieces ih =>
    rw [List.map_cons, List.cons_append, foldlM_ok_cons, ih, List.flatten_cons, List.append_assoc]

theorem copyReadings_pieces (pieces : List Bytes) :
    copyReadings (pieces.map Except.ok) = .ok pieces.flatten := by
  have h := foldlM_pieces_append [] pieces []
  rwa [List.append_nil] at h

theorem copyReadings_pieces_error (pieces : List Bytes) (cause : String)
    (later : List (Except String Bytes)) :
    copyReadings (pieces.map Except.ok ++ .error cause :: later) = .error cause := by
  unfold copyReadings
  rw [foldlM_pieces_append, foldlM_error_cons]

/-- What has been read may be a whole document by then. -/
example : copyReadings [.ok (Bytes.ofText "null"), .error "peer disconnected"] =
    .error "peer disconnected" := rfl

/-! ### The readings of a delivery -/

namespace Delivery

variable {d : Delivery} {cause : String}

/-- The response that a delivery makes if its body is whole. -/
def response (d : Delivery) : Response where
  status := d.status
  headers := Agent.visibleHeaders d.headers
  body := d.pieces.flatten
  finalUrl := d.servedFrom.text

theorem readings_of_whole (h : d.broken = none) : d.readings = d.pieces.map .ok := by
  rw [readings, h]
  exact List.append_nil _

theorem readings_of_broken (h : d.broken = some cause) :
    d.readings = d.pieces.map .ok ++ [.error cause] := by
  rw [readings, h]
  rfl

theorem copyReadings_of_whole (h : d.broken = none) :
    copyReadings d.readings = .ok d.pieces.flatten := by
  rw [readings_of_whole h, copyReadings_pieces]

theorem copyReadings_of_broken (h : d.broken = some cause) :
    copyReadings d.readings = .error cause := by
  rw [readings_of_broken h, copyReadings_pieces_error]

/-- Until a body ends or breaks off, exactly the pieces that have arrived are copied. -/
theorem copyReadings_take {n : Nat} (h : n ≤ d.pieces.length) :
    copyReadings (d.readings.take n) = .ok (d.pieces.take n).flatten := by
  unfold readings
  rw [List.take_append_of_le_length (by rwa [List.length_map]), ← List.map_take,
    copyReadings_pieces]

end Delivery

/-! ### The round trip -/

section
variable {agent : Agent} {request : Request} {d : Delivery} {response : Response} {cause : String}

theorem execute_of_unanswered {cause : TransportCause} (h : agent.reply request = .error cause) :
    agent.execute request = .error (.transport request.url cause) := by
  rw [Agent.execute, h]

/-- The round trip copies the body: it fails where the copying fails, and has the copy for a body
    otherwise. -/
theorem execute_of_reply (h : agent.reply request = .ok d) :
    agent.execute request =
      ((copyReadings d.readings).mapError (.bodyRead request.url)).map
        fun body => { d.response with body := body } := by
  rw [Agent.execute, h]
  dsimp only
  cases copyReadings d.readings <;> rfl

theorem execute_of_whole (h : agent.reply request = .ok d) (hwhole : d.broken = none) :
    agent.execute request = .ok d.response := by
  rw [execute_of_reply h, Delivery.copyReadings_of_whole hwhole]
  rfl

theorem execute_of_broken (h : agent.reply request = .ok d) (hbroken : d.broken = some cause) :
    agent.execute request = .error (.bodyRead request.url cause) := by
  rw [execute_of_reply h, Delivery.copyReadings_of_broken hbroken]
  rfl

/-- A round trip fails without a body. -/
theorem body?_of_execute {e : ProbeError} (h : agent.execute request = .error e) :
    e.body? = none := by
  cases hreply : agent.reply request with
  | error cause =>
    rw [execute_of_unanswered hreply] at h
    cases h
    rfl
  | ok d =>
    cases hbroken : d.broken with
    | some cause =>
      rw [execute_of_broken hreply hbroken] at h
      cases h
      rfl
    | none =>
      rw [execute_of_whole hreply hbroken] at h
      cases h

/-- Every response is made of a whole body. -/
theorem exists_whole_of_execute (h : agent.execute request = .ok response) :
    ∃ d, agent.reply request = .ok d ∧ d.broken = none ∧ response = d.response := by
  cases hreply : agent.reply request with
  | error cause =>
    rw [execute_of_unanswered hreply] at h
    cases h
  | ok d =>
    cases hbroken : d.broken with
    | some cause =>
      rw [execute_of_broken hreply hbroken] at h
      cases h
    | none =>
      rw [execute_of_whole hreply hbroken] at h
      exact ⟨d, rfl, hbroken, (Except.ok.inj h).symm⟩

end

/-! ### Probes -/

namespace Session

variable {s : Session} {net : Network} {root : ApiRoot} {endpoint output : String}
  {expectation : Expectation} {response : Response} {e : ProbeError}

/-- A request that gets no response only stands in the journal. -/
theorem probe_of_error (h : net s.sent (root.request endpoint) = .error e) :
    s.probe net root endpoint expectation output =
      (.error e, s.note (.sent (root.request endpoint))) := by
  have hsend : s.send net (root.request endpoint) =
      (.error e, s.note (.sent (root.request endpoint))) := by
    unfold send
    rw [h]
  unfold probe
  dsimp only
  rw [hsend]

/-- A probe over an agent fails as the round trip does, or it gets the response of a whole body. -/
theorem probe_cases (s : Session) (agent : Agent) (root : ApiRoot) (endpoint : String)
    (expectation : Expectation) (output : String) :
    (∃ e, agent.execute (root.request endpoint) = .error e ∧
      s.probe agent.network root endpoint expectation output =
        (.error e, s.note (.sent (root.request endpoint)))) ∨
    ∃ d, agent.reply (root.request endpoint) = .ok d ∧ d.broken = none ∧
      agent.network s.sent (root.request endpoint) = .ok d.response := by
  cases hexecute : agent.execute (root.request endpoint) with
  | error e => exact .inl ⟨e, rfl, probe_of_error hexecute⟩
  | ok response =>
    obtain ⟨d, hreply, hwhole, hresponse⟩ := exists_whole_of_execute hexecute
    exact .inr ⟨d, hreply, hwhole, hresponse ▸ hexecute⟩

/-- The three ways in which a probe ends that gets a response. -/
theorem probe_of_ok (h : net s.sent (root.request endpoint) = .ok response) :
    BodyUnwritten output response s.disk (s.probe net root endpoint expectation output).2.disk
        (s.probe net root endpoint expectation output).1 ∨
      StatusUnwritten output response s.disk (s.probe net root endpoint expectation output).2.disk
        (s.probe net root endpoint expectation output).1 ∨
      SavedAndJudged (root.request endpoint) expectation output response s.disk
        (s.probe net root endpoint expectation output).2.disk
        (s.probe net root endpoint expectation output).1 := by
  obtain ⟨hresult, hafter⟩ := probe_spec net root endpoint expectation output s
  rw [h] at hresult hafter
  exact answer_of_response (Prod.ext hresult.symm hafter.disk_eq.symm)

/-- A probe that touches a file has put the body of the response under the output path. -/
theorem body_of_disk_ne (h : net s.sent (root.request endpoint) = .ok response)
    (hdisk : (s.probe net root endpoint expectation output).2.disk ≠ s.disk) :
    (s.probe net root endpoint expectation output).2.disk.look? output =
      some (.file response.body) := by
  rcases probe_of_ok h with hways | hways | hways
  · exact absurd hways.unchanged hdisk
  · exact hways.body
  · exact hways.body

/-- A probe that finds something has judged the response. -/
theorem verdict_of_ok {o : Outcome} (h : net s.sent (root.request endpoint) = .ok response)
    (hok : (s.probe net root endpoint expectation output).1 = .ok o) :
    ∃ doc, verdict (root.request endpoint) response expectation = .ok doc := by
  rcases probe_of_ok h with hways | hways | hways
  · obtain ⟨_, -, hresult⟩ := hways.failed
    cases hok.symm.trans hresult
  · obtain ⟨_, -, hresult⟩ := hways.failed
    cases hok.symm.trans hresult
  · exact hways.accepted_iff.1 ⟨o, hok⟩

/-- A verdict that carries a body carries the body of the response. -/
theorem body_of_verdict {request : Request} {body : Bytes}
    (h : verdict request response expectation = .error e) (hbody : e.body? = some body) :
    body = response.body := by
  rcases verdict_cases request response expectation with
    ⟨-, hresult⟩ | ⟨_, _, -, -, hresult⟩ | ⟨_, -, -, hresult⟩
  · cases h.symm.trans hresult
    exact (Option.some.inj hbody).symm
  · cases h.symm.trans hresult
  · cases h.symm.trans hresult
    exact (Option.some.inj hbody).symm

/-- A probe that fails with a body has judged the response, and the body is that of the response. -/
theorem body_of_error {body : Bytes} (h : net s.sent (root.request endpoint) = .ok response)
    (herror : (s.probe net root endpoint expectation output).1 = .error e)
    (hbody : e.body? = some body) : body = response.body := by
  rcases probe_of_ok h with hways | hways | hways
  · obtain ⟨_, -, hresult⟩ := hways.failed
    cases herror.symm.trans hresult
    cases hbody
  · obtain ⟨_, -, hresult⟩ := hways.failed
    cases herror.symm.trans hresult
    cases hbody
  · cases hverdict : verdict (root.request endpoint) response expectation with
    | error e' =>
      cases herror.symm.trans (hways.rejected e' hverdict)
      exact body_of_verdict hverdict hbody
    | ok doc =>
      obtain ⟨o, hok⟩ := hways.accepted_iff.2 ⟨doc, hverdict⟩
      cases herror.symm.trans hok

end Session

/-! ### The theorem -/

/-- What becomes of the body that an agent gets for a request. -/
structure TakenWhole (agent : Agent) (request : Request) : Prop where
  /-- If there is no response, the round trip fails, with the address that was asked. -/
  unanswered : ∀ cause, agent.reply request = .error cause →
    agent.execute request = .error (.transport request.url cause)
  /-- A body that ends cleanly is taken whole, however long it is and however it is cut. -/
  whole : ∀ d, agent.reply request = .ok d → d.broken = none →
    ∃ response, agent.execute request = .ok response ∧ response.status = d.status ∧
      response.body = d.pieces.flatten
  /-- If the body breaks off, the round trip fails with the address that was asked, whatever had
      arrived. -/
  truncated : ∀ d cause, agent.reply request = .ok d → d.broken = some cause →
    agent.execute request = .error (.bodyRead request.url cause)
  /-- This is what reading comes to. On the way exactly the pieces that have arrived are copied, and
      the round trip ends as the copying does. -/
  copied : ∀ d, agent.reply request = .ok d →
    (∀ n, n ≤ d.pieces.length →
      copyReadings (d.readings.take n) = .ok (d.pieces.take n).flatten) ∧
    agent.execute request =
      ((copyReadings d.readings).mapError (.bodyRead request.url)).map
        fun body => { d.response with body := body }
  /-- If the round trip fails, a probe fails with the same error. All that is new is the request in
      the journal, and all files are as they were. -/
  untouched : ∀ (root : ApiRoot) (endpoint : String) (expectation : Expectation) (output : String)
    (s : Session) (e : ProbeError), root.request endpoint = request →
    agent.execute request = .error e →
    s.probe agent.network root endpoint expectation output = (.error e, s.note (.sent request)) ∧
      (s.probe agent.network root endpoint expectation output).2.disk = s.disk
  /-- If a probe touches a file, a whole body has arrived, and now it stands under the output
      path. -/
  saved : ∀ (root : ApiRoot) (endpoint : String) (expectation : Expectation) (output : String)
    (s : Session), root.request endpoint = request →
    (s.probe agent.network root endpoint expectation output).2.disk ≠ s.disk →
    ∃ d, agent.reply request = .ok d ∧ d.broken = none ∧
      (s.probe agent.network root endpoint expectation output).2.disk.look? output =
        some (.file d.pieces.flatten)
  /-- If a probe finds something, a whole body has been judged. -/
  accepted : ∀ (root : ApiRoot) (endpoint : String) (expectation : Expectation) (output : String)
    (s : Session) (o : Outcome), root.request endpoint = request →
    (s.probe agent.network root endpoint expectation output).1 = .ok o →
    ∃ d doc, agent.reply request = .ok d ∧ d.broken = none ∧
      Json.ofBytes? d.pieces.flatten = some doc
  /-- If a probe fails because of a body, this is a whole body, too. -/
  rejected : ∀ (root : ApiRoot) (endpoint : String) (expectation : Expectation) (output : String)
    (s : Session) (e : ProbeError) (body : Bytes), root.request endpoint = request →
    (s.probe agent.network root endpoint expectation output).1 = .error e →
    e.body? = some body →
    ∃ d, agent.reply request = .ok d ∧ d.broken = none ∧ body = d.pieces.flatten

/-- Whatever an agent gets for a request, the body is taken whole or not at all: a body that breaks
    off is neither saved nor judged. -/
theorem bodies_are_taken_whole (agent : Agent) (request : Request) :
    TakenWhole agent request := by
  refine ⟨?_, ?_, ?_, ?_, ?_, ?_, ?_, ?_⟩
  · intro cause hreply
    exact execute_of_unanswered hreply
  · intro d hreply hwhole
    exact ⟨_, execute_of_whole hreply hwhole, rfl, rfl⟩
  · intro d cause hreply hbroken
    exact execute_of_broken hreply hbroken
  · intro d hreply
    exact ⟨fun n hn => Delivery.copyReadings_take hn, execute_of_reply hreply⟩
  · intro root endpoint expectation output s e hrequest herror
    subst hrequest
    have hprobe : s.probe agent.network root endpoint expectation output =
        (.error e, s.note (.sent (root.request endpoint))) := Session.probe_of_error herror
    exact ⟨hprobe, by rw [hprobe]; rfl⟩
  · intro root endpoint expectation output s hrequest hdisk
    subst hrequest
    rcases s.probe_cases agent root endpoint expectation output with
      ⟨e, -, hprobe⟩ | ⟨d, hreply, hwhole, hnetwork⟩
    · rw [hprobe] at hdisk
      exact absurd rfl hdisk
    · exact ⟨d, hreply, hwhole, Session.body_of_disk_ne hnetwork hdisk⟩
  · intro root endpoint expectation output s o hrequest hok
    subst hrequest
    rcases s.probe_cases agent root endpoint expectation output with
      ⟨e, -, hprobe⟩ | ⟨d, hreply, hwhole, hnetwork⟩
    · rw [hprobe] at hok
      cases hok
    · obtain ⟨doc, hdoc⟩ := Session.verdict_of_ok hnetwork hok
      obtain ⟨_, -, hread, -⟩ := accepts_iff.1 (verdict_eq_ok_iff.1 hdoc)
      exact ⟨d, doc, hreply, hwhole, hread⟩
  · intro root endpoint expectation output s e body hrequest herror hbody
    subst hrequest
    rcases s.probe_cases agent root endpoint expectation output with
      ⟨e', hexecute, hprobe⟩ | ⟨d, hreply, hwhole, hnetwork⟩
    · -- a round trip fails without a body
      rw [hprobe] at herror
      cases herror
      cases (body?_of_execute hexecute).symm.trans hbody
    · exact ⟨d, hreply, hwhole, Session.body_of_error hnetwork herror hbody⟩

end RegistryProbe
