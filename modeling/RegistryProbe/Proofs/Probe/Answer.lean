import RegistryProbe.Probe

/-! # What a probe comes to

  A probe asks once. The result and the files that it leaves are a function of the reply and of the
  disk, and the rest of the session hardly notices.

  - `answer` is this function.
  - `Proceeds` is how a session goes on without a word to the user: it sends some requests and
    leaves some disk. Every part of a probe is of this kind, and so is the whole.
  - `probe_spec` says both of a whole probe.
-/

namespace RegistryProbe

open Files

/-- Writes the two files of a response: the body and then the status. A file that cannot be written
    ends the matter there. -/
def keep (output : String) (response : Response) (d : Disk) : Except ProbeError Unit × Disk :=
  match d.write output response.body with
  | .error f => (.error (.file .writing output (.fault f)), d)
  | .ok d =>
    match d.write (statusPath output) (statusBytes response.status) with
    | .error f => (.error (.file .writing (statusPath output) (.fault f)), d)
    | .ok d => (.ok (), d)

/-- What a probe finds if its request gets a reply, and the files that it leaves. -/
def answer (request : Request) (expectation : Expectation) (output : String)
    (reply : Except ProbeError Response) (d : Disk) : Except ProbeError Outcome × Disk :=
  match reply with
  | .error e => (.error e, d)
  | .ok response =>
    match keep output response d with
    | (.error e, d) => (.error e, d)
    | (.ok (), d) =>
      ((verdict request response expectation).map (Session.outcome request response output), d)

/-- The events that a probe enters into the journal. -/
def Event.isProbes : Event → Bool
  | sent _ | received .. | redirected .. | saved .. | notJson _ | accepted .. => true
  | _ => false

namespace Session

variable {s t u : Session} {net : Network} {root : ApiRoot} {endpoint output : String}
  {expectation : Expectation} {request : Request} {response : Response}
  {requests requests' : List Request} {d d' : Disk}

/-! ### Sessions that go on quietly -/

/-- A session goes on from `s` to `t`: it sends some requests and leaves a disk. Nothing is told to
    the user, no workspace is made or left, and only events of probes are new in the journal. -/
structure Proceeds (s : Session) (requests : List Request) (d : Disk) (t : Session) : Prop where
  disk_eq : t.disk = d
  sent_eq : t.sent = s.sent ++ requests
  temp_eq : t.temp = s.temp
  tags_eq : t.tags = s.tags
  drawn_eq : t.drawn = s.drawn
  diagnostics_eq : t.diagnostics = s.diagnostics
  journal_eq : ∃ more : List Event,
    t.journal = s.journal ++ more ∧ ∀ e ∈ more, e.isProbes = true

namespace Proceeds

theorem refl (s : Session) : Proceeds s [] s.disk s :=
  ⟨rfl, by simp, rfl, rfl, rfl, rfl, [], by simp⟩

theorem trans (h : Proceeds s requests d t) (h' : Proceeds t requests' d' u) :
    Proceeds s (requests ++ requests') d' u := by
  obtain ⟨more, hmore, hall⟩ := h.journal_eq
  obtain ⟨more', hmore', hall'⟩ := h'.journal_eq
  refine ⟨h'.disk_eq, ?_, h'.temp_eq.trans h.temp_eq, h'.tags_eq.trans h.tags_eq,
    h'.drawn_eq.trans h.drawn_eq, h'.diagnostics_eq.trans h.diagnostics_eq,
    more ++ more', ?_, ?_⟩
  · rw [h'.sent_eq, h.sent_eq, List.append_assoc]
  · rw [hmore', hmore, List.append_assoc]
  · intro e he
    rcases List.mem_append.1 he with he | he
    · exact hall e he
    · exact hall' e he

theorem noteSent (s : Session) (request : Request) :
    Proceeds s [request] s.disk (s.note (.sent request)) :=
  ⟨rfl, by simp [Event.sent?], rfl, rfl, rfl, rfl, [.sent request], rfl, by simp [Event.isProbes]⟩

theorem note (s : Session) (e : Event) (he : e.isProbes = true) (hsent : e.sent? = none) :
    Proceeds s [] s.disk (s.note e) :=
  ⟨rfl, by simp [hsent], rfl, rfl, rfl, rfl, [e], rfl, by simpa using he⟩

theorem onDisk (s : Session) (d : Disk) : Proceeds s [] d { s with disk := d } :=
  ⟨rfl, by simp [sent], rfl, rfl, rfl, rfl, [], by simp⟩

/-- What is read off other events than those of probes stays as it is. -/
theorem filterMap_journal_eq {α : Type} {read? : Event → Option α} (h : Proceeds s requests d t)
    (hread : ∀ e, e.isProbes = true → read? e = none) :
    t.journal.filterMap read? = s.journal.filterMap read? := by
  -- all events that are new are of probes, and none of them is read
  obtain ⟨more, hmore, hall⟩ := h.journal_eq
  have hnone : more.filterMap read? = [] :=
    List.filterMap_eq_nil_iff.2 fun e he => hread e (hall e he)
  rw [hmore, List.filterMap_append, hnone, List.append_nil]

theorem printed_eq (h : Proceeds s requests d t) : t.printed = s.printed :=
  h.filterMap_journal_eq fun e he => by cases e <;> simp_all [Event.isProbes, Event.printed?]

theorem reports_eq (h : Proceeds s requests d t) : t.reports = s.reports :=
  h.filterMap_journal_eq fun e he => by cases e <;> simp_all [Event.isProbes, Event.reported?]

end Proceeds

/-! ### The parts of a probe -/

theorem send_spec (net : Network) (request : Request) (s : Session) :
    (s.send net request).1 = net s.sent request ∧
      Proceeds s [request] s.disk (s.send net request).2 := by
  unfold send
  cases net s.sent request with
  | error e => exact ⟨rfl, .noteSent s request⟩
  | ok response =>
    exact ⟨rfl, (Proceeds.noteSent s request).trans (.note _ (.received ..) rfl rfl)⟩

theorem noteRedirect_proceeds (request : Request) (response : Response) (s : Session) :
    Proceeds s [] s.disk (s.noteRedirect request response) := by
  unfold noteRedirect
  split
  · exact .note s _ rfl rfl
  · exact .refl s

theorem save_spec (output : String) (response : Response) (s : Session) :
    (s.save output response).1 = (keep output response s.disk).1 ∧
      Proceeds s [] (keep output response s.disk).2 (s.save output response).2 := by
  unfold save write keep
  cases s.disk.write output response.body with
  | error f => exact ⟨rfl, .refl s⟩
  | ok d =>
    have onDisk (d' : Disk) : Proceeds s [] d' { s with disk := d' } := .onDisk s d'
    cases hd : d.write (statusPath output) (statusBytes response.status) with
    | error f => simpa [hd] using onDisk d
    | ok d' => simpa [hd] using (onDisk d').trans (.note _ (.saved ..) rfl rfl)

theorem judge_spec (request : Request) (response : Response) (expectation : Expectation)
    (s : Session) :
    (s.judge request response expectation).1 = verdict request response expectation ∧
      Proceeds s [] s.disk (s.judge request response expectation).2 := by
  unfold judge
  cases verdict request response expectation with
  | ok d => exact ⟨rfl, .note s (.accepted ..) rfl rfl⟩
  | error e =>
    dsimp only
    split
    · exact ⟨rfl, .note s (.notJson _) rfl rfl⟩
    · exact ⟨rfl, .refl s⟩

/-! ### The whole probe -/

/-- The result of a probe and how the session goes on. -/
theorem probe_spec (net : Network) (root : ApiRoot) (endpoint : String)
    (expectation : Expectation) (output : String) (s : Session) :
    (s.probe net root endpoint expectation output).1 =
        (answer (root.request endpoint) expectation output (net s.sent (root.request endpoint))
          s.disk).1 ∧
      Proceeds s [root.request endpoint]
        (answer (root.request endpoint) expectation output (net s.sent (root.request endpoint))
          s.disk).2
        (s.probe net root endpoint expectation output).2 := by
  obtain ⟨hreply, hsent⟩ := send_spec net (root.request endpoint) s
  unfold probe answer
  dsimp only
  generalize s.send net (root.request endpoint) = sending at hreply hsent ⊢
  obtain ⟨reply, s₁⟩ := sending
  subst hreply
  dsimp only at hsent ⊢
  cases net s.sent (root.request endpoint) with
  | error e => exact ⟨rfl, hsent⟩
  | ok response =>
    dsimp only
    -- a note of a redirect comes before the files are written
    have hredirect := noteRedirect_proceeds (root.request endpoint) response s₁
    obtain ⟨hsaved, hsave⟩ :=
      save_spec output response (s₁.noteRedirect (root.request endpoint) response)
    rw [hredirect.disk_eq, hsent.disk_eq] at hsaved hsave
    have hsave := (hsent.trans hredirect).trans hsave
    generalize (s₁.noteRedirect (root.request endpoint) response).save output response = saving
      at hsaved hsave ⊢
    generalize keep output response s.disk = keeping at hsaved hsave ⊢
    obtain ⟨saved, s₂⟩ := saving
    obtain ⟨kept, d⟩ := keeping
    subst hsaved
    cases saved with
    | error e => exact ⟨rfl, hsave⟩
    | ok _ =>
      -- both files stand, and only now the verdict counts
      obtain ⟨hjudged, hjudge⟩ := judge_spec (root.request endpoint) response expectation s₂
      rw [hsave.disk_eq] at hjudge
      have hjudge := hsave.trans hjudge
      dsimp only
      generalize s₂.judge (root.request endpoint) response expectation = judging at hjudged hjudge ⊢
      obtain ⟨judged, s₃⟩ := judging
      subst hjudged
      cases verdict (root.request endpoint) response expectation with
      | error e => exact ⟨rfl, hjudge⟩
      | ok doc => exact ⟨rfl, hjudge⟩

end Session

end RegistryProbe
