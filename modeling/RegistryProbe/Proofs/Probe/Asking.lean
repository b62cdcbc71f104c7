import RegistryProbe.Proofs.Probe.Answer
import RegistryProbe.Run

/-! # What a run of probes asks

  A probe reads its expectation, asks once and only then touches a file. So a run asks exactly for
  the endpoints of the probes whose expectations can be read, in their order, and a probe that comes
  to nothing before a response has arrived leaves all files alone.

  - `askFor` is the request for an endpoint, written out.
  - `AsksOnce` collects what is so of one probe: `asksOnce_perform`.
  - `sent_runStep` tells what a step sends, `sent_afterRun` what a run sends.
-/

namespace RegistryProbe

open Files

/-! ### Requests -/

/-- The request for an endpoint: exactly one slash stands between the root of the API and the
    endpoint, and a document is asked for. -/
def askFor (base endpoint : String) : Request where
  method := .get
  url := String.ofList (ApiRoot.withoutTrailing base.toList) ++ "/" ++
    String.ofList (ApiRoot.withoutLeading endpoint.toList)
  headers := [("accept", "application/json")]

theorem request_ofUrl (base endpoint : String) :
    (ApiRoot.ofUrl base).request endpoint = askFor base endpoint := by
  simp [ApiRoot.request, ApiRoot.url, ApiRoot.ofUrl, askFor, String.ofList_append]

/-- Whether the expectation of an errand can be read. The error list needs no reading. -/
def Errand.isReadable (e : Errand) : Bool :=
  match e.expression with
  | some expression => (Selector.read expression).isOk
  | none => true

/-- The request that a step sends, if it sends one. -/
def RunStep.request? (base : String) : RunStep → Option Request
  | .probe e _ => if e.isReadable then some (askFor base e.endpoint) else none
  | .change _ => none

namespace Session

variable {s : Session} {net : Network} {root : ApiRoot} {base endpoint expression output : String}

/-! ### One probe -/

/-- What is so of a probe whose expectation is given as text, with the session before, the result
    and the session after. -/
structure AsksOnce (base endpoint expression : String) (net : Network) (before : Session)
    (result : Except ProbeError Outcome) (after : Session) : Prop where
  /-- If the expectation cannot be read, the probe fails and nothing at all has happened: no request
      was sent and no file was touched. -/
  unread : ∀ fault, Selector.read expression = .error fault →
    result = .error (.invalidExpectation expression fault.message) ∧ after = before
  /-- Otherwise the endpoint is asked for, once. -/
  asked : ∀ selector, Selector.read expression = .ok selector →
    after.sent = before.sent ++ [askFor base endpoint]
  /-- If no whole response arrives, the probe fails for just that reason and touches no file. -/
  unanswered : ∀ selector e, Selector.read expression = .ok selector →
    net before.sent (askFor base endpoint) = .error e →
    result = .error e ∧ after.disk = before.disk

theorem probeText_of_error {fault : Selector.Fault}
    (h : Selector.read expression = .error fault) (net : Network) (root : ApiRoot)
    (endpoint output : String) (s : Session) :
    s.probeText net root endpoint expression output =
      (.error (.invalidExpectation expression fault.message), s) := by
  simp [probeText, Expectation.read, h]

theorem probeText_of_ok {selector : Selector} (h : Selector.read expression = .ok selector)
    (net : Network) (root : ApiRoot) (endpoint output : String) (s : Session) :
    s.probeText net root endpoint expression output =
      s.probe net root endpoint (.at selector) output := by
  simp [probeText, Expectation.read, h]

theorem asksOnce_probeText (base endpoint expression output : String) (net : Network)
    (s : Session) :
    AsksOnce base endpoint expression net s
      (s.probeText net (.ofUrl base) endpoint expression output).1
      (s.probeText net (.ofUrl base) endpoint expression output).2 := by
  cases hread : Selector.read expression with
  | error fault =>
    rw [probeText_of_error hread]
    refine ⟨?_, ?_, ?_⟩
    · intro fault' hfault
      cases hread.symm.trans hfault
      exact ⟨rfl, rfl⟩
    · intro selector hok
      cases hread.symm.trans hok
    · intro selector e hok
      cases hread.symm.trans hok
  | ok selector =>
    rw [probeText_of_ok hread]
    obtain ⟨hresult, hafter⟩ := probe_spec net (.ofUrl base) endpoint (.at selector) output s
    rw [request_ofUrl] at hresult hafter
    refine ⟨?_, ?_, ?_⟩
    · intro fault hfault
      cases hread.symm.trans hfault
    · intro _ _
      exact hafter.sent_eq
    · intro _ e _ hreply
      -- an answer that is none leaves the disk to itself
      rw [hreply] at hresult hafter
      exact ⟨hresult, hafter.disk_eq⟩

theorem asksOnce_perform (base : String) (net : Network) {e : Errand}
    (h : e.expression = some expression) (s : Session) :
    AsksOnce base e.endpoint expression net s (s.perform net (.ofUrl base) e).1
      (s.perform net (.ofUrl base) e).2 := by
  have hperform : s.perform net (.ofUrl base) e =
      s.probeText net (.ofUrl base) e.endpoint expression e.output := by
    simp [perform, h]
  rw [hperform]
  exact asksOnce_probeText base e.endpoint expression e.output net s

/-! ### What a step sends -/

theorem sent_perform (base : String) (net : Network) (e : Errand) (s : Session) :
    (s.perform net (.ofUrl base) e).2.sent =
      s.sent ++ ((RunStep.probe e net).request? base).toList := by
  cases hexpression : e.expression with
  | none =>
    -- the error list: there is nothing to read, and the endpoint is asked for
    have hperform : s.perform net (.ofUrl base) e =
        s.probe net (.ofUrl base) e.endpoint .errorList e.output := by
      simp [perform, hexpression]
    obtain ⟨-, hafter⟩ := probe_spec net (.ofUrl base) e.endpoint .errorList e.output s
    rw [hperform, hafter.sent_eq, request_ofUrl]
    simp [RunStep.request?, Errand.isReadable, hexpression]
  | some expression =>
    have hasks := asksOnce_perform base net hexpression s
    cases hread : Selector.read expression with
    | error fault =>
      rw [(hasks.unread fault hread).2]
      simp [RunStep.request?, Errand.isReadable, hexpression, hread, Except.isOk, Except.toBool]
    | ok selector =>
      rw [hasks.asked selector hread]
      simp [RunStep.request?, Errand.isReadable, hexpression, hread, Except.isOk, Except.toBool]

theorem sent_runStep (base : String) (s : Session) (step : RunStep) :
    (s.runStep (.ofUrl base) step).2.sent = s.sent ++ (step.request? base).toList := by
  cases step with
  | probe e net => exact sent_perform base net e s
  | change c =>
    show s.sent = s.sent ++ []
    rw [List.append_nil]

/-! ### Whole runs -/

theorem afterRun_cons (root : ApiRoot) (s : Session) (step : RunStep) (steps : List RunStep) :
    s.afterRun root (step :: steps) = (s.runStep root step).2.afterRun root steps := rfl

theorem sent_afterRun (base : String) (s : Session) (steps : List RunStep) :
    (s.afterRun (.ofUrl base) steps).sent = s.sent ++ steps.filterMap (RunStep.request? base) := by
  -- by induction on the steps, from whatever session the run starts in
  induction steps generalizing s with
  | nil => simp [afterRun]
  | cons step steps ih =>
    rw [afterRun_cons, ih, sent_runStep, List.append_assoc]
    cases hrequest : step.request? base <;> simp [hrequest]

theorem run_append (root : ApiRoot) (s : Session) (steps more : List RunStep) :
    s.run root (steps ++ more) = s.run root steps ++ (s.afterRun root steps).run root more := by
  induction steps generalizing s with
  | nil => rfl
  | cons step steps ih =>
    show _ :: (s.runStep root step).2.run root (steps ++ more) = _
    rw [ih]
    rfl

theorem length_run (root : ApiRoot) (s : Session) (steps : List RunStep) :
    (s.run root steps).length = steps.length := by
  induction steps generalizing s with
  | nil => rfl
  | cons step steps ih => exact congrArg (· + 1) (ih _)

/-- What comes of a step in the middle of a run. -/
theorem run_getElem? (root : ApiRoot) (s : Session) (steps more : List RunStep) (step : RunStep) :
    (s.run root (steps ++ step :: more))[steps.length]? =
      some ((s.afterRun root steps).runStep root step) := by
  have hlength := length_run root s steps
  rw [run_append, List.getElem?_append_right (Nat.le_of_eq hlength), hlength, Nat.sub_self]
  rfl

/-- What is so of a run of probes, with the session that it starts in. -/
structure AsksInOrder (base : String) (s : Session) (steps : List RunStep) : Prop where
  /-- Each probe whose expectation is given as text asks once or not at all, in the session that the
      steps before it have left. -/
  each : ∀ earlier e net later expression, steps = earlier ++ .probe e net :: later →
    e.expression = some expression → ∃ result after,
      (s.run (.ofUrl base) steps)[earlier.length]? = some (.probed result, after) ∧
        AsksOnce base e.endpoint expression net (s.afterRun (.ofUrl base) earlier) result after
  /-- The requests of the run are those of the steps that send one, in their order. -/
  sent_eq : (s.afterRun (.ofUrl base) steps).sent =
    s.sent ++ steps.filterMap (RunStep.request? base)

end Session

/-- A run asks for the endpoints of its readable probes in order, each exactly once. -/
theorem runs_ask_in_order (base : String) (s : Session) (steps : List RunStep) :
    s.AsksInOrder base steps := by
  refine ⟨?_, s.sent_afterRun base steps⟩
  rintro earlier e net later expression rfl hexpression
  have hstep := s.run_getElem? (.ofUrl base) earlier later (.probe e net)
  exact ⟨_, _, hstep, Session.asksOnce_perform base net hexpression _⟩

end RegistryProbe
