import RegistryProbe.Proofs.Scan.Loop
import RegistryProbe.Proofs.Scope.Course
import RegistryProbe.Transcript

/-! # A scan is a fold over its calls

  A scan makes the calls up to the first that fails, or up to the first accepted 404 if it is told
  to stop there, or all of them. What it asks, prints, reports and comes to is read off from the
  results of these calls: `scan_folds_calls`.
-/

namespace RegistryProbe

/-- How a scan comes out that ends before its first call, with an error: it asks for nothing, makes
    no directory, prints nothing and tells the error. -/
structure ScanRefused (program : String) (e : ProbeError) (before : Session)
    (intent : Option Intent) (after : Session) : Prop where
  intent_eq : intent = some .failed
  code_eq : intent.map Intent.code = some 12
  disk_eq : after.disk = before.disk
  sent_eq : after.sent = before.sent
  results_eq : ∀ m, after.shown .results m = before.shown .results m
  journal_eq : after.journal = before.journal ++ [.reported program e]
  diagnostics_eq : after.diagnostics = (Diagnostics.report program e before.diagnostics).2

/-- The exit code of a scan with this last call. -/
def lastCode (stop : Bool) : Except ProbeError Outcome → UInt8
  | .error _ => 12
  | .ok o => if stop = true ∧ o.status = 404 then 8 else 0

/-- How a scan of some endpoints comes out whose calls have these results and whose last call is the
    one at an index. -/
structure ScanMade (program : String) (root : ApiRoot) (stop : Bool) (endpoints : List String)
    (calls : List (Except ProbeError Outcome)) (k : Nat) (before : Session)
    (intent : Option Intent) (after : Session) : Prop where
  /-- The endpoints up to the last call were asked for, in order and once each. -/
  sent_eq : after.sent = before.sent ++ (endpoints.take (k + 1)).map root.request
  /-- A line was printed for each of these that was accepted, and nothing else. -/
  results_eq : ∀ m, after.shown .results m =
    before.shown .results m ++
      (callLines (endpoints.take (k + 1)) calls).flatMap fun line => Bytes.ofText line ++ [0x0A]
  failed_iff : intent = some .failed ↔ ∃ e, calls[k]? = some (.error e)
  aborted_iff : intent = some .aborted ↔
    stop = true ∧ ∃ o, calls[k]? = some (.ok o) ∧ o.status = 404
  completed_iff : intent = some .completed ↔
    ∃ o, calls[k]? = some (.ok o) ∧ ¬ (stop = true ∧ o.status = 404)
  code_eq : intent.map Intent.code = (calls[k]?).map (lastCode stop)
  /-- The error of the last call was told, once. -/
  told : ∀ e, calls[k]? = some (.error e) → after.reports = before.reports ++ [e] ∧
    after.diagnostics = (Diagnostics.report program e before.diagnostics).2
  /-- Without such an error nothing was told. -/
  silent : (∀ e, calls[k]? ≠ some (.error e)) → after.reports = before.reports ∧
    after.diagnostics = before.diagnostics

namespace Session

variable {net : Network} {root : ApiRoot} {program : String} {expectation : Expectation}
  {plan : ScanPlan} {stop : Bool} {w : Workspace} {s t u : Session} {e : ProbeError}

theorem scanRefused_of_report (n : Nat) :
    ScanRefused program e s (some .failed) ({ s with drawn := n }.report program e).2 where
  intent_eq := rfl
  code_eq := rfl
  disk_eq := rfl
  sent_eq := sent_report program e _
  results_eq := by
    intro m
    rw [shown_results, shown_results, printed_report]
    rfl
  journal_eq := rfl
  diagnostics_eq := rfl

theorem scan_of_malformed (h : Expectation.read plan.expression = .error e) :
    ScanRefused program e s (s.scan net root program plan).1 (s.scan net root program plan).2 := by
  have hscan : s.scan net root program plan = (some .failed, (s.report program e).2) := by
    unfold scan
    rw [h, ← report_fst program e s]
  rw [hscan]
  exact scanRefused_of_report s.drawn

theorem scan_of_setup_error (hread : Expectation.read plan.expression = .ok expectation)
    (hsetup : s.setup.1 = .error e) :
    ScanRefused program e s (s.scan net root program plan).1 (s.scan net root program plan).2 := by
  have heq : s.setup = (.error e, s.setup.2) := Prod.ext hsetup rfl
  have hscan : s.scan net root program plan = (some .failed, (s.setup.2.report program e).2) := by
    unfold scan
    rw [hread]
    exact runScope_of_setup_error heq
  obtain ⟨n, hn⟩ := setup_error heq
  rw [hscan, hn]
  exact scanRefused_of_report n

/-- Setting up and dropping the workspace go unnoticed on both channels. -/
theorem goes_of_scope {requests : List Request} {lines : List String}
    (hsetup : s.setup = (.ok w, t)) (hgoes : Goes t requests lines u) :
    Goes s requests lines (u.drop w) := by
  obtain ⟨tag, d, n, hw, hd, ht⟩ := setup_ok hsetup
  -- making and dropping the workspace leave events that neither channel shows
  have hmade : Goes s [] [] t := by
    rw [ht]
    exact ⟨by simp [sent, note, Event.sent?], by simp [printed, note, Event.printed?],
      by simp [reports, note, Event.reported?], rfl⟩
  have hdropped : Goes u [] [] (u.drop w) :=
    ⟨by simp [sent, drop, note, Event.sent?], by simp [printed, drop, note, Event.printed?],
      by simp [reports, drop, note, Event.reported?], rfl⟩
  have := (hmade.trans hgoes).trans hdropped
  simpa using this

/-- Every line that was printed stands on the channel for results, with a line feed behind it. -/
theorem shown_of_printed {lines : List String} (h : t.printed = s.printed ++ lines) (m : Manner) :
    t.shown .results m =
      s.shown .results m ++ lines.flatMap fun line => Bytes.ofText line ++ [0x0A] := by
  rw [shown_results, shown_results, h, List.flatMap_append]
  rfl

/-- How the last call is settled once the workspace is gone. -/
theorem scanMade_of_goes {endpoints : List String} {calls : List (Except ProbeError Outcome)}
    {k : Nat} {call : Except ProbeError Outcome} (hk : calls[k]? = some call)
    (hgoes : Goes s ((endpoints.take (k + 1)).map root.request)
      (callLines (endpoints.take (k + 1)) calls) t) :
    ScanMade program root stop endpoints calls k s
      (settle program (closing stop call).1 (closing stop call).2 t).1
      (settle program (closing stop call).1 (closing stop call).2 t).2 := by
  cases call with
  | error e =>
    -- the call failed: one report follows
    show ScanMade program root stop endpoints calls k s (some .failed) (t.report program e).2
    have hsent := sent_report program e t
    have hprinted := (printed_report program e t).trans hgoes.printed_eq
    refine ⟨hsent.trans hgoes.sent_eq, shown_of_printed hprinted, by simp [hk], by simp [hk],
      by simp [hk], ?_, ?_, ?_⟩
    · rw [hk]
      rfl
    · intro e' he
      rw [hk] at he
      cases he
      refine ⟨by rw [reports_report, hgoes.reports_eq], ?_⟩
      rw [← hgoes.diagnostics_eq]
      rfl
    · intro hno
      exact absurd hk (hno e)
  | ok o =>
    -- the call was accepted: nothing is told, and a 404 may have stopped the scan
    show ScanMade program root stop endpoints calls k s
      (some (if stop && o.isNotFound then .aborted else .completed)) t
    refine ⟨hgoes.sent_eq, shown_of_printed hgoes.printed_eq, ?_, ?_, ?_, ?_, ?_, ?_⟩
    · split <;> simp [hk]
    · simp [hk, Outcome.isNotFound]
    · simp [hk, Outcome.isNotFound]
    · rw [hk]
      by_cases hstop : stop = true ∧ o.status = 404
      · simp [lastCode, Outcome.isNotFound, hstop, Intent.code]
      · simp [lastCode, Outcome.isNotFound, hstop, Intent.code]
    · intro e he
      rw [hk] at he
      cases he
    · intro _
      exact ⟨hgoes.reports_eq, hgoes.diagnostics_eq⟩

/-- A scan of some endpoints is a fold over its calls. An expression that cannot be read and a
    workspace that cannot be made end it before the first call. Else it makes the calls up to the
    one at which it ends, and its last call decides what it comes to. -/
theorem scan_folds_calls (net : Network) (root : ApiRoot) (program : String) (plan : ScanPlan)
    (s : Session) (nonempty : plan.endpoints ≠ []) :
    let scanned := s.scan net root program plan
    (∀ e, Expectation.read plan.expression = .error e →
      ScanRefused program e s scanned.1 scanned.2) ∧
    (∀ expectation e, Expectation.read plan.expression = .ok expectation →
      s.setup.1 = .error e → ScanRefused program e s scanned.1 scanned.2) ∧
    ∀ expectation w, Expectation.read plan.expression = .ok expectation → s.setup.1 = .ok w →
      let calls := callsFrom net root expectation w 0 plan.endpoints s.setup.2
      ∃ k < plan.endpoints.length, EndsAt plan.stopOnNotFound calls k ∧
        ScanMade program root plan.stopOnNotFound plan.endpoints calls k s scanned.1
          scanned.2 := by
  intro scanned
  refine ⟨fun e hread => scan_of_malformed hread,
    fun expectation e hread hsetup => scan_of_setup_error hread hsetup, ?_⟩
  intro expectation w hread hsetup calls
  have heq : s.setup = (.ok w, s.setup.2) := Prod.ext hsetup rfl
  obtain ⟨tag, d, n, hw, hd, ht⟩ := setup_ok heq
  -- a workspace starts as aborted, and nothing marks it as done before the loop ends
  have haborted : w.intent = .aborted := by rw [hw]
  obtain ⟨k, call, hends, hk, hending, hintent, hgoes⟩ :=
    scanFrom_spec net root expectation plan.stopOnNotFound haborted nonempty 0 s.setup.2
  have hscan : scanned =
      settle program (closing plan.stopOnNotFound call).1 (closing plan.stopOnNotFound call).2
        ((scanFrom net root expectation plan.stopOnNotFound w 0 plan.endpoints
          s.setup.2).2.2.drop w) := by
    rw [← hending, ← hintent]
    show s.scan net root program plan = _
    unfold scan
    rw [hread]
    exact runScope_of_setup_ok heq
  have hlt : k < plan.endpoints.length := by
    have := hends.lt_length
    rwa [length_callsFrom] at this
  refine ⟨k, hlt, hends, ?_⟩
  rw [hscan]
  exact scanMade_of_goes hk (goes_of_scope heq hgoes)

/-- A scan of two endpoints that the registry does not have, told to stop at the first of them. -/
theorem scan_of_missing_endpoints :
    let net : Network := fun _ _ => .ok ⟨404, [], Bytes.ofText "missing", "http://host/a"⟩
    let root := ApiRoot.ofUrl "http://host"
    let plan : ScanPlan := ⟨".", true, ["a", "b"]⟩
    let s : Session := .start "/work" "/tmp" [.makeDirectories "/tmp"] .numbered
    let w : Workspace := ⟨"/tmp/registry-check.000000", .aborted⟩
    let scanned := s.scan net root "registry-check" plan
    let calls := callsFrom net root (.at ⟨".", []⟩) w 0 plan.endpoints s.setup.2
    plan.endpoints ≠ [] ∧ Expectation.read plan.expression = .ok (.at ⟨".", []⟩) ∧
      s.setup.1 = .ok w ∧
      ∃ k < plan.endpoints.length, EndsAt true calls k ∧
        ScanMade "registry-check" root true plan.endpoints calls k s scanned.1 scanned.2 :=
  ⟨by decide, rfl, rfl, (scan_folds_calls _ _ _ _ _ (by decide)).2.2 _ _ rfl rfl⟩

end Session

end RegistryProbe
