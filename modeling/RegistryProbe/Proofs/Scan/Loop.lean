import RegistryProbe.Proofs.Scan.Calls

/-! # The loop of a scan

  The loop makes the calls up to the one at which the scan ends.

  - `Goes` is how a session goes on while a scan runs: it sends requests, prints lines and reports
    nothing.
  - One call and what follows it are of this kind, and so is the whole loop: `scanFrom_spec`.
-/

namespace RegistryProbe

/-! ### What calls come to -/

/-- The lines that are printed for calls: for each that is accepted, its status in decimal and its
    endpoint. -/
def callLines (endpoints : List String) (calls : List (Except ProbeError Outcome)) :
    List String :=
  (endpoints.zip calls).filterMap fun p =>
    match p.2 with
    | .ok o => some (Text.Decimal.text o.status.toNat ++ " " ++ p.1)
    | .error _ => none

/-- How a scan ends after its last call, and the intent that it leaves. -/
def closing (stop : Bool) : Except ProbeError Outcome → Ending × Intent
  | .error e => (.failed e, .aborted)
  | .ok o => (.returned, if stop && o.isNotFound then .aborted else .completed)

namespace Session

variable {net : Network} {root : ApiRoot} {expectation : Expectation} {stop : Bool}
  {w : Workspace} {s t u : Session} {requests requests' : List Request}
  {lines lines' : List String}

/-! ### While a scan runs -/

/-- A session goes on from `s` to `t`: it sends some requests and prints some lines, and nothing is
    told on the diagnostic stream. -/
structure Goes (s : Session) (requests : List Request) (lines : List String) (t : Session) :
    Prop where
  sent_eq : t.sent = s.sent ++ requests
  printed_eq : t.printed = s.printed ++ lines
  reports_eq : t.reports = s.reports
  diagnostics_eq : t.diagnostics = s.diagnostics

namespace Goes

theorem refl (s : Session) : Goes s [] [] s := ⟨by simp, by simp, rfl, rfl⟩

theorem trans (h : Goes s requests lines t) (h' : Goes t requests' lines' u) :
    Goes s (requests ++ requests') (lines ++ lines') u where
  sent_eq := by rw [h'.sent_eq, h.sent_eq, List.append_assoc]
  printed_eq := by rw [h'.printed_eq, h.printed_eq, List.append_assoc]
  reports_eq := h'.reports_eq.trans h.reports_eq
  diagnostics_eq := h'.diagnostics_eq.trans h.diagnostics_eq

theorem note (s : Session) (e : Event) (hsent : e.sent? = none) (hreport : e.reported? = none) :
    Goes s [] e.printed?.toList (s.note e) :=
  ⟨by simp [hsent], by simp, by simp [hreport], rfl⟩

theorem of_proceeds {d : Files.Disk} (h : Proceeds s requests d t) : Goes s requests [] t :=
  ⟨h.sent_eq, by simp [h.printed_eq], h.reports_eq, h.diagnostics_eq⟩

/-- The registry's remarks on an endpoint go to the log alone. -/
theorem details (endpoint : String) (texts : List String) (s : Session) :
    Goes s [] [] (texts.foldl (fun s text => s.note (.detail endpoint text)) s) := by
  induction texts generalizing s with
  | nil => exact refl s
  | cons text texts ih => exact (note s (.detail endpoint text) rfl rfl).trans (ih _)

end Goes

/-- Remarks leave the files alone. -/
theorem disk_details (endpoint : String) (texts : List String) (s : Session) :
    (texts.foldl (fun s text => s.note (.detail endpoint text)) s).disk = s.disk := by
  induction texts generalizing s with
  | nil => rfl
  | cons text texts ih => exact ih (s.note (.detail endpoint text))

/-- The session after an accepted call: the remarks and the line are out. -/
def accepted (endpoint : String) (o : Outcome) (s : Session) : Session :=
  (o.errors.foldl (fun s text => s.note (.detail endpoint text)) s).print (scanLine o endpoint)

theorem accepted_goes (endpoint : String) (o : Outcome) (s : Session) :
    Goes s [] [scanLine o endpoint] (s.accepted endpoint o) :=
  (Goes.details endpoint o.errors s).trans (.note _ (.printed _) rfl rfl)

theorem disk_accepted (endpoint : String) (o : Outcome) (s : Session) :
    (s.accepted endpoint o).disk = s.disk :=
  disk_details endpoint o.errors s

theorem scanFrom_of_error {index : Nat} {endpoint : String} {endpoints : List String}
    {e : ProbeError}
    (h : (s.probe net root endpoint expectation (scanOutput w index)).1 = .error e) :
    scanFrom net root expectation stop w index (endpoint :: endpoints) s =
      (.failed e, w.intent, (s.probe net root endpoint expectation (scanOutput w index)).2) := by
  rw [scanFrom]
  split
  next e' _ heq =>
    rw [heq] at h ⊢
    cases h
    rfl
  next heq =>
    rw [heq] at h
    cases h

theorem scanFrom_of_ok {index : Nat} {endpoint : String} {endpoints : List String}
    {o : Outcome}
    (h : (s.probe net root endpoint expectation (scanOutput w index)).1 = .ok o) :
    scanFrom net root expectation stop w index (endpoint :: endpoints) s =
      let s := (s.probe net root endpoint expectation (scanOutput w index)).2.accepted endpoint o
      if stop && o.isNotFound then (.returned, w.intent, s.note (.stopped endpoint))
      else scanFrom net root expectation stop w (index + 1) endpoints s := by
  rw [scanFrom]
  split
  next heq =>
    rw [heq] at h
    cases h
  next heq =>
    rw [heq] at h ⊢
    cases h
    rfl

/-- The loop of a scan makes the calls up to the last one, prints a line for each that is accepted
    and ends as the last call says. -/
theorem scanFrom_spec (net : Network) (root : ApiRoot) (expectation : Expectation) (stop : Bool)
    (hw : w.intent = .aborted) {endpoints : List String} (hne : endpoints ≠ []) (index : Nat)
    (s : Session) :
    ∃ k call, EndsAt stop (callsFrom net root expectation w index endpoints s) k ∧
      (callsFrom net root expectation w index endpoints s)[k]? = some call ∧
      (scanFrom net root expectation stop w index endpoints s).1 = (closing stop call).1 ∧
      (scanFrom net root expectation stop w index endpoints s).2.1 = (closing stop call).2 ∧
      Goes s ((endpoints.take (k + 1)).map root.request)
        (callLines (endpoints.take (k + 1)) (callsFrom net root expectation w index endpoints s))
        (scanFrom net root expectation stop w index endpoints s).2.2 := by
  -- induction along the endpoints; the call at hand is the last one or the rest has one
  induction endpoints generalizing index s with
  | nil => exact absurd rfl hne
  | cons endpoint endpoints ih =>
    -- the call itself tells nobody anything
    obtain ⟨-, hproceeds⟩ := probe_spec net root endpoint expectation (scanOutput w index) s
    have hprobe := Goes.of_proceeds hproceeds
    rw [callsFrom_cons]
    cases hcall : (s.probe net root endpoint expectation (scanOutput w index)).1 with
    | error e =>
      rw [scanFrom_of_error hcall]
      exact ⟨0, .error e, .zero (.inl rfl), rfl, rfl, hw, hprobe⟩
    | ok o =>
      rw [scanFrom_of_ok hcall]
      dsimp only
      generalize hs₁ : (s.probe net root endpoint expectation (scanOutput w index)).2 = s₁
        at hprobe ⊢
      have haccepted := hprobe.trans (accepted_goes endpoint o s₁)
      cases hstop : stop && o.isNotFound with
      | true =>
        rw [if_pos rfl]
        -- an accepted 404: the line is out, then the loop stops
        have hstopped := haccepted.trans (.note _ (.stopped endpoint) rfl rfl)
        refine ⟨0, .ok o, .zero (.inl hstop), rfl, rfl, ?_, hstopped⟩
        simp [closing, hstop, hw]
      | false =>
        rw [if_neg Bool.false_ne_true]
        cases endpoints with
        | nil =>
          -- no endpoint is left: the work is marked as done
          refine ⟨0, .ok o, .zero (.inr rfl), rfl, rfl, ?_, haccepted⟩
          simp [closing, hstop, Workspace.finish, scanFrom]
        | cons endpoint' endpoints =>
          -- the calls to come find the session as the call left it, the remarks and the line aside
          have hsame :
              callsFrom net root expectation w (index + 1) (endpoint' :: endpoints)
                  (s₁.accepted endpoint o) =
                callsFrom net root expectation w (index + 1) (endpoint' :: endpoints) s₁ := by
            apply callsFrom_congr
            · simpa using (accepted_goes endpoint o s₁).sent_eq
            · exact disk_accepted endpoint o s₁
          obtain ⟨k, call, hends, hk, hending, hintent, hgoes⟩ :=
            ih (List.cons_ne_nil _ _) (index + 1) (s₁.accepted endpoint o)
          rw [hsame] at hends hk hgoes
          exact ⟨k + 1, call, hends.succ hstop, hk, hending, hintent, haccepted.trans hgoes⟩

end Session

end RegistryProbe
