import RegistryProbe.Proofs.Probe.Answer
import RegistryProbe.Scan

/-! # The calls of a scan

  A scan is read off the results of its calls, as if every endpoint were called and no call ended
  the scan. `callsFrom` lists these results. They depend on the requests sent before and on the
  files alone, so what a scan prints or logs between its calls does not matter: `callsFrom_congr`.

  `EndsAt` says which call is the last that the scan makes.
-/

namespace RegistryProbe

namespace Session

variable {net : Network} {root : ApiRoot} {expectation : Expectation} {w : Workspace}
  {s t : Session}

/-! ### Calls in a row -/

/-- The results of the calls for endpoints, the first of which has the given index. Each call is
    made in the session that the one before leaves. -/
def callsFrom (net : Network) (root : ApiRoot) (expectation : Expectation) (w : Workspace) :
    Nat → List String → Session → List (Except ProbeError Outcome)
  | _, [], _ => []
  | index, endpoint :: endpoints, s =>
    let (call, s) := s.probe net root endpoint expectation (scanOutput w index)
    call :: callsFrom net root expectation w (index + 1) endpoints s

theorem callsFrom_cons (index : Nat) (endpoint : String) (endpoints : List String)
    (s : Session) :
    callsFrom net root expectation w index (endpoint :: endpoints) s =
      (s.probe net root endpoint expectation (scanOutput w index)).1 ::
        callsFrom net root expectation w (index + 1) endpoints
          (s.probe net root endpoint expectation (scanOutput w index)).2 := rfl

theorem length_callsFrom (index : Nat) (endpoints : List String) (s : Session) :
    (callsFrom net root expectation w index endpoints s).length = endpoints.length := by
  induction endpoints generalizing index s with
  | nil => rfl
  | cons endpoint endpoints ih =>
    rw [callsFrom_cons, List.length_cons, ih, List.length_cons]

/-- A probe sees the requests sent before and the files, and nothing else of a session. -/
theorem probe_congr (endpoint output : String) (hsent : t.sent = s.sent)
    (hdisk : t.disk = s.disk) :
    (t.probe net root endpoint expectation output).1 =
        (s.probe net root endpoint expectation output).1 ∧
      (t.probe net root endpoint expectation output).2.sent =
        (s.probe net root endpoint expectation output).2.sent ∧
      (t.probe net root endpoint expectation output).2.disk =
        (s.probe net root endpoint expectation output).2.disk := by
  obtain ⟨hs, hs'⟩ := probe_spec net root endpoint expectation output s
  obtain ⟨ht, ht'⟩ := probe_spec net root endpoint expectation output t
  -- both probes come to the same answer, which has no other arguments
  rw [hsent, hdisk] at ht ht'
  refine ⟨ht.trans hs.symm, ?_, ht'.disk_eq.trans hs'.disk_eq.symm⟩
  rw [ht'.sent_eq, hs'.sent_eq, hsent]

theorem callsFrom_congr (index : Nat) (endpoints : List String) (hsent : t.sent = s.sent)
    (hdisk : t.disk = s.disk) :
    callsFrom net root expectation w index endpoints t =
      callsFrom net root expectation w index endpoints s := by
  induction endpoints generalizing index s t with
  | nil => rfl
  | cons endpoint endpoints ih =>
    -- the first calls agree and leave sessions that agree again
    obtain ⟨hcall, hsent', hdisk'⟩ := probe_congr endpoint (scanOutput w index) hsent hdisk
    rw [callsFrom_cons, callsFrom_cons, hcall, ih (index + 1) hsent' hdisk']

end Session

/-! ### The last call -/

/-- Whether a scan goes no further after a call with this result. -/
def endsScan (stop : Bool) : Except ProbeError Outcome → Bool
  | .error _ => true
  | .ok o => stop && o.isNotFound

/-- The call at an index is the last that a scan makes: it ends the scan or no endpoint is left, and
    no call before it ends the scan. -/
structure EndsAt (stop : Bool) (calls : List (Except ProbeError Outcome)) (k : Nat) : Prop where
  lt_length : k < calls.length
  earlier : ∀ j < k, ∃ call, calls[j]? = some call ∧ endsScan stop call = false
  last : ∀ call, calls[k]? = some call → endsScan stop call = true ∨ k + 1 = calls.length

namespace EndsAt

variable {stop : Bool} {calls : List (Except ProbeError Outcome)}
  {call : Except ProbeError Outcome} {k : Nat}

theorem zero (h : endsScan stop call = true ∨ calls = []) : EndsAt stop (call :: calls) 0 where
  lt_length := by simp
  earlier := by simp
  last := by
    intro c hc
    obtain rfl := Option.some.inj hc
    rcases h with h | rfl
    · exact .inl h
    · exact .inr rfl

theorem succ (hcall : endsScan stop call = false) (h : EndsAt stop calls k) :
    EndsAt stop (call :: calls) (k + 1) where
  lt_length := by
    have := h.lt_length
    simpa using this
  earlier := by
    intro j hj
    cases j with
    | zero => exact ⟨call, rfl, hcall⟩
    | succ j => exact h.earlier j (by omega)
  last := by
    intro c hc
    have := h.last c (by simpa using hc)
    simpa using this

end EndsAt

end RegistryProbe
