import RegistryProbe.Proofs.Probe.Judging
import RegistryProbe.Proofs.Scan.Filing
import RegistryProbe.Proofs.Scan.Fold
import RegistryProbe.Proofs.Scope.Guards

/-! # What the workspace of a scan holds

  Every response that a scan saves stays in the workspace as long as the scan runs, and nothing else
  is ever there. When the scan is over the workspace is gone and the files are what they were.

  - `Comes` is the loop of a scan, one accepted call after the other. The loop runs through these
    sessions and no others: `scanFrom_of_comes`, `ends_of_comes`.
  - One call adds its own files to those of the earlier calls: `holds_probe`. So the workspace holds
    the files of all earlier calls whenever the loop comes to a call: `holds_of_comes`.
  - `scan_files_responses` says what this comes to, from before the scan to after it.
-/

namespace RegistryProbe

open Files

/-! ### The loop -/

/-- The loop of a scan that starts in `s` comes to another session, with some endpoints left. Each
    call before was answered by a response, and it was accepted without ending the scan. -/
inductive Session.Comes (net : Network) (root : ApiRoot) (expectation : Expectation) (stop : Bool)
    (w : Workspace) (endpoints : List String) (s : Session) :
    List Response → List String → Session → Prop
  | start : Comes net root expectation stop w endpoints s [] endpoints s
  | next {earlier : List Response} {endpoint : String} {rest : List String} {u : Session}
      {response : Response} {o : Outcome}
      (before : Comes net root expectation stop w endpoints s earlier (endpoint :: rest) u)
      (received : net u.sent (root.request endpoint) = .ok response)
      (call_eq :
        (u.probe net root endpoint expectation (scanOutput w earlier.length)).1 = .ok o)
      (goes_on : endsScan stop (.ok o) = false) :
      Comes net root expectation stop w endpoints s (earlier ++ [response]) rest
        ((u.probe net root endpoint expectation (scanOutput w earlier.length)).2.accepted
          endpoint o)

namespace Session

variable {net : Network} {root : ApiRoot} {expectation : Expectation} {stop : Bool}
  {w : Workspace} {endpoints rest : List String} {s u : Session} {earlier : List Response}
  {before : Disk}

/-- The endpoints that are left are those without a response yet. -/
theorem rest_of_comes (h : Comes net root expectation stop w endpoints s earlier rest u) :
    endpoints.drop earlier.length = rest := by
  induction h with
  | start => rfl
  | next _ _ _ _ ih => rw [List.length_append, ← List.drop_drop, ih]; rfl

/-- From the session to which the loop has come it goes on with the endpoints that are left. -/
theorem scanFrom_of_comes (h : Comes net root expectation stop w endpoints s earlier rest u) :
    scanFrom net root expectation stop w 0 endpoints s =
      scanFrom net root expectation stop w earlier.length rest u := by
  induction h with
  | start => rfl
  | next _ _ call_eq goes_on ih =>
    rw [ih, scanFrom_of_ok call_eq, List.length_append]
    exact if_neg (by simpa [endsScan] using goes_on)

/-- The end of the loop: no endpoint is left, or the call for the next one is the last. -/
def LoopEnds (net : Network) (root : ApiRoot) (expectation : Expectation) (w : Workspace)
    (earlier : List Response) (rest : List String) (u final : Session) : Prop :=
  match rest with
  | [] => final = u
  | endpoint :: _ =>
    final.disk = (u.probe net root endpoint expectation (scanOutput w earlier.length)).2.disk

/-- A call that succeeds was answered. -/
theorem received_of_ok {endpoint output : String} {o : Outcome}
    (h : (u.probe net root endpoint expectation output).1 = .ok o) :
    ∃ response, net u.sent (root.request endpoint) = .ok response := by
  rw [(probe_spec net root endpoint expectation output u).1] at h
  cases hreply : net u.sent (root.request endpoint) with
  | error e => simp [hreply, answer] at h
  | ok response => exact ⟨response, rfl⟩

/-- From every session to which the loop comes it comes to its end. -/
theorem ends_of_comes (h : Comes net root expectation stop w endpoints s earlier rest u) :
    ∃ earlier rest u, Comes net root expectation stop w endpoints s earlier rest u ∧
      LoopEnds net root expectation w earlier rest u
        (scanFrom net root expectation stop w 0 endpoints s).2.2 := by
  -- by induction along the endpoints that are left
  induction rest generalizing earlier u with
  | nil =>
    refine ⟨earlier, [], u, h, ?_⟩
    rw [scanFrom_of_comes h]
    rfl
  | cons endpoint rest ih =>
    cases hcall : (u.probe net root endpoint expectation (scanOutput w earlier.length)).1 with
    | error e =>
      refine ⟨earlier, endpoint :: rest, u, h, ?_⟩
      rw [scanFrom_of_comes h, scanFrom_of_error hcall]
      rfl
    | ok o =>
      cases hends : endsScan stop (.ok o) with
      | true =>
        -- an accepted 404 at which the scan is to stop
        have hstop : (stop && o.isNotFound) = true := hends
        refine ⟨earlier, endpoint :: rest, u, h, ?_⟩
        rw [scanFrom_of_comes h, scanFrom_of_ok hcall]
        dsimp only
        rw [if_pos hstop]
        exact disk_accepted endpoint o _
      | false =>
        obtain ⟨response, received⟩ := received_of_ok hcall
        exact ih (.next h received hcall hends)

/-! ### One call -/

/-- What cannot be kept is told with the file that could not be written. -/
theorem keep_error {output : String} {response : Response} {d : Disk} {e : ProbeError}
    (h : (keep output response d).1 = .error e) : ∃ path cause, e = .file .writing path cause := by
  unfold keep at h
  split at h
  next =>
    cases h
    exact ⟨_, _, rfl⟩
  next =>
    split at h
    next =>
      cases h
      exact ⟨_, _, rfl⟩
    next => cases h

/-- A response leaves the files that keeping it leaves. If it cannot be kept, the call fails with
    the file that could not be written. -/
theorem answer_received (request : Request) (expectation : Expectation) (output : String)
    (response : Response) (d : Disk) :
    (answer request expectation output (.ok response) d).2 = (keep output response d).2 ∧
      ((keep output response d).1 = .ok () ∨ ∃ path cause,
        (answer request expectation output (.ok response) d).1 =
          .error (.file .writing path cause)) := by
  unfold answer
  dsimp only
  rcases hkeep : keep output response d with ⟨e | _, d'⟩
  · obtain ⟨path, cause, rfl⟩ := keep_error (congrArg Prod.fst hkeep)
    exact ⟨rfl, .inr ⟨path, cause, rfl⟩⟩
  · exact ⟨rfl, .inl rfl⟩

/-- A call in a workspace that holds the files of earlier calls adds its own files: both of them
    unless one cannot be written, and none if there is no response. -/
theorem holds_probe (net : Network) (root : ApiRoot) (expectation : Expectation)
    (hsite : Disk.IsSite w.path) (h : Disk.Holds w.path before (filed earlier) u.disk)
    (endpoint : String) :
    let call := u.probe net root endpoint expectation (scanOutput w earlier.length)
    ∃ more, Disk.Holds w.path before (filed earlier ++ more) call.2.disk ∧
      ∀ response, net u.sent (root.request endpoint) = .ok response →
        more <+: filesOf earlier.length response ∧
        ((∀ path cause, call.1 ≠ .error (.file .writing path cause)) →
          more = filesOf earlier.length response) := by
  intro call
  obtain ⟨hresult, hafter⟩ := probe_spec net root endpoint expectation
    (scanOutput w earlier.length) u
  have hdisk := hafter.disk_eq
  cases hreply : net u.sent (root.request endpoint) with
  | error e =>
    rw [hreply] at hdisk
    refine ⟨[], ?_, fun response hr => nomatch hr⟩
    rw [List.append_nil, hdisk]
    exact h
  | ok response =>
    rw [hreply] at hresult hdisk
    obtain ⟨more, hpart, hholds, hall⟩ := holds_keep hsite h response
    obtain ⟨hkept, hwritten⟩ := answer_received (root.request endpoint) expectation
      (scanOutput w earlier.length) response u.disk
    refine ⟨more, ?_, ?_⟩
    · rw [hdisk, hkept]
      exact hholds
    · rintro _ ⟨⟩
      refine ⟨hpart, fun hfiles => hall ?_⟩
      refine hwritten.resolve_right ?_
      rintro ⟨path, cause, hcause⟩
      exact hfiles path cause (hresult.trans hcause)

/-- Whenever the loop comes to a call, the workspace holds the files of all calls before it. -/
theorem holds_of_comes (hsite : Disk.IsSite w.path) (hstart : Disk.Holds w.path before [] s.disk)
    (h : Comes net root expectation stop w endpoints s earlier rest u) :
    Disk.Holds w.path before (filed earlier) u.disk := by
  induction h with
  | start => exact hstart
  | next _ received call_eq _ ih =>
    obtain ⟨more, hholds, hfiles⟩ := holds_probe net root expectation hsite ih _
    rw [filed_concat, disk_accepted]
    rw [(hfiles _ received).2 fun path cause hfailed => nomatch call_eq.symm.trans hfailed]
      at hholds
    exact hholds

theorem apart_of_loopEnds {final : Session} (hsite : Disk.IsSite w.path)
    (h : Disk.Holds w.path before (filed earlier) u.disk)
    (hends : LoopEnds net root expectation w earlier rest u final) :
    Disk.Apart w.path before final.disk := by
  cases rest with
  | nil =>
    obtain rfl : final = u := hends
    exact h.toApart
  | cons endpoint rest =>
    have hends : final.disk = _ := hends
    obtain ⟨more, hholds, -⟩ := holds_probe net root expectation hsite h endpoint
    rw [hends]
    exact hholds.toApart

end Session

/-! ### The whole scan -/

/-- The directory at a path shows these files and nothing else, and their contents. -/
structure Shows (path : String) (files : List (String × Bytes)) (d : Disk) : Prop where
  listing_eq : d.listing path =
    (files.map fun f => (f.1, Entry.file f.2)).mergeSort fun a b => a.1 ≤ b.1
  reads : ∀ f ∈ files, d.look? (PathText.join path f.1) = some (.file f.2)

theorem shows_of_holds {path : String} {before d : Disk} {files : List (String × Bytes)}
    (hsite : Disk.IsSite path) (h : Disk.Holds path before files d) : Shows path files d :=
  ⟨h.listing_eq hsite.absolute, fun _ hf => h.look?_path hf⟩

/-- What a call of a scan does to the workspace, if the calls before it had these responses. -/
structure CallFiles (net : Network) (root : ApiRoot) (expectation : Expectation) (w : Workspace)
    (endpoint : String) (earlier : List Response) (u : Session)
    (call : Except ProbeError Outcome × Session) : Prop where
  /-- It finds the files of these calls. -/
  before : Shows w.path (filed earlier) u.disk
  /-- It leaves the files of these calls, and perhaps more. -/
  kept : ∃ more, Shows w.path (filed earlier ++ more) call.2.disk
  /-- Once its own response is written, its own two files are what was added. -/
  written : ∀ response, net u.sent (root.request endpoint) = .ok response →
    (∀ path cause, call.1 ≠ .error (.file .writing path cause)) →
    Shows w.path (filed (earlier ++ [response])) call.2.disk
  /-- Without a response it changes no file. -/
  unanswered : ∀ e, net u.sent (root.request endpoint) = .error e → call.2.disk = u.disk

/-- What the loop of a scan does to the workspace when it starts in `s`. -/
structure LoopFiles (net : Network) (root : ApiRoot) (expectation : Expectation) (stop : Bool)
    (w : Workspace) (endpoints : List String) (s : Session) : Prop where
  /-- What every call does to which the loop comes. -/
  calls : ∀ earlier endpoint rest u,
    Session.Comes net root expectation stop w endpoints s earlier (endpoint :: rest) u →
    CallFiles net root expectation w endpoint earlier u
      (u.probe net root endpoint expectation (Session.scanOutput w earlier.length))
  /-- The loop goes on from there with the endpoints without a response. -/
  goes_on : ∀ earlier rest u,
    Session.Comes net root expectation stop w endpoints s earlier rest u →
    endpoints.drop earlier.length = rest ∧
      Session.scanFrom net root expectation stop w 0 endpoints s =
        Session.scanFrom net root expectation stop w earlier.length rest u
  /-- So it comes to its end. -/
  ends : ∃ earlier rest u, Session.Comes net root expectation stop w endpoints s earlier rest u ∧
    Session.LoopEnds net root expectation w earlier rest u
      (Session.scanFrom net root expectation stop w 0 endpoints s).2.2

/-- How a scan treats the files. -/
structure ScanFiles (net : Network) (root : ApiRoot) (program : String) (plan : ScanPlan)
    (s : Session) (scanned : Option Intent × Session) : Prop where
  /-- When the scan is over, the files are what they were. -/
  restored : scanned.2.disk = s.disk
  /-- While it runs, its loop fills the workspace, which is dropped in the end. -/
  loop : ∀ expectation w t, Expectation.read plan.expression = .ok expectation →
    s.setup = (.ok w, t) →
    let loop := Session.scanFrom net root expectation plan.stopOnNotFound w 0 plan.endpoints t
    scanned = Session.settle program loop.1 loop.2.1 (loop.2.2.drop w) ∧
      LoopFiles net root expectation plan.stopOnNotFound w plan.endpoints t
  /-- The files of calls are two for each, all with different names. -/
  names : ∀ responses, (filed responses).length = 2 * responses.length ∧
    ((filed responses).map Prod.fst).Nodup

namespace Session

variable {net : Network} {root : ApiRoot} {expectation : Expectation} {program : String}
  {plan : ScanPlan} {stop : Bool} {w : Workspace} {endpoints : List String} {s t u : Session}
  {earlier : List Response} {before : Disk}

-- Setting up makes many attempts, and none is to be evaluated.
attribute [local irreducible] setup

theorem callFiles_of_holds (hsite : Disk.IsSite w.path)
    (h : Disk.Holds w.path before (filed earlier) u.disk) (endpoint : String) :
    CallFiles net root expectation w endpoint earlier u
      (u.probe net root endpoint expectation (scanOutput w earlier.length)) := by
  obtain ⟨more, hholds, hfiles⟩ := holds_probe net root expectation hsite h endpoint
  have hshows := shows_of_holds hsite hholds
  refine ⟨shows_of_holds hsite h, ⟨more, hshows⟩, ?_, ?_⟩
  · intro response received hwritten
    rw [(hfiles response received).2 hwritten, ← filed_concat] at hshows
    exact hshows
  · intro e hreply
    obtain ⟨-, hafter⟩ := probe_spec net root endpoint expectation (scanOutput w earlier.length) u
    rw [hreply] at hafter
    exact hafter.disk_eq

theorem loopFiles_of_holds (hsite : Disk.IsSite w.path)
    (hstart : Disk.Holds w.path before [] s.disk) :
    LoopFiles net root expectation stop w endpoints s where
  calls := fun _ endpoint _ _ hcomes =>
    callFiles_of_holds hsite (holds_of_comes hsite hstart hcomes) endpoint
  goes_on := fun _ _ _ hcomes => ⟨rest_of_comes hcomes, scanFrom_of_comes hcomes⟩
  ends := ends_of_comes .start

/-- A workspace that was set up holds no files yet. -/
theorem holds_of_setup (h : s.setup = (.ok w, t)) :
    Disk.IsSite w.path ∧ Disk.Holds w.path s.disk [] t.disk := by
  obtain ⟨hsite, -⟩ := isSite_of_setup h
  obtain ⟨tag, d, n, -, hmade, rfl⟩ := setup_ok h
  exact ⟨hsite, Disk.holds_of_makeDirectory hsite.absolute hmade⟩

/-- The workspace of a scan holds two files for every response that was saved, the body and the
    status, and nothing else. They stay until the scan is over, and then the files are what they
    were before it. -/
theorem scan_files_responses (net : Network) (root : ApiRoot) (program : String) (plan : ScanPlan)
    (s : Session) : ScanFiles net root program plan s (s.scan net root program plan) := by
  have hscan (expectation : Expectation) (w : Workspace) (t : Session)
      (hread : Expectation.read plan.expression = .ok expectation)
      (hsetup : s.setup = (.ok w, t)) :
      let loop := scanFrom net root expectation plan.stopOnNotFound w 0 plan.endpoints t
      s.scan net root program plan = settle program loop.1 loop.2.1 (loop.2.2.drop w) := by
    unfold scan
    rw [hread]
    exact runScope_of_setup_ok hsetup
  refine ⟨?_, ?_, fun responses => ⟨length_filed responses, nodup_names_filed responses⟩⟩
  · cases hread : Expectation.read plan.expression with
    | error e => exact (scan_of_malformed hread).disk_eq
    | ok expectation =>
      rcases hsetup : s.setup with ⟨e | w, t⟩
      · exact (scan_of_setup_error hread (by rw [hsetup])).disk_eq
      · obtain ⟨hsite, hstart⟩ := holds_of_setup hsetup
        -- the loop ends with a disk that differs in the workspace alone
        have hbegins : Comes net root expectation plan.stopOnNotFound w plan.endpoints t []
            plan.endpoints t := .start
        obtain ⟨earlier, rest, u, hcomes, hends⟩ := ends_of_comes hbegins
        have hapart := apart_of_loopEnds hsite (holds_of_comes hsite hstart hcomes) hends
        rw [hscan expectation w t hread hsetup, Config.disk_settle]
        exact hapart.removeDirectory hsite
  · intro expectation w t hread hsetup
    obtain ⟨hsite, hstart⟩ := holds_of_setup hsetup
    exact ⟨hscan expectation w t hread hsetup, loopFiles_of_holds hsite hstart⟩

end Session

end RegistryProbe
