import RegistryProbe.Proofs.Probe.Asking
import RegistryProbe.Proofs.Probe.Outputs

/-! # Probes that leave each other alone

  A probe writes under its output and under its status path, and nowhere else. So two probes meet
  only if a place is named by both, and a place is lost only to a later probe that names it.

  - `FourPlaces` says of two outputs that they and their status paths name four places. Two probes
    of such outputs come to the same in either order: `commute_of_fourPlaces`.
  - `Overwrites` lists the ways in which a later output takes the files of an earlier one: it is the
    output again, its status path, or the output without a last `.http`. These are all the ways in
    which two outputs fail to name four places: `fourPlaces_iff`.
  - The files of a probe stand after one more probe that does not overwrite them, and so after any
    number of them: `Stored.perform`, `Stored.afterRun`.
-/

namespace RegistryProbe

open Files

namespace Files.Disk

variable {d e : Disk} {output later a b : String} {response : Response}

/-! ### Outputs that meet -/

/-- Two outputs and their status paths name four different places. -/
def FourPlaces (d : Disk) (a b : String) : Prop :=
  [d.named a, d.named (a ++ ".http"), d.named b, d.named (b ++ ".http")].Nodup

/-- A later output takes the place of an output or of its status, or its status takes the place of
    the output. -/
def Overwrites (d : Disk) (later output : String) : Prop :=
  d.named later = d.named output ∨ d.named later = d.named (output ++ ".http") ∨
    d.named (later ++ ".http") = d.named output

instance (d : Disk) (a b : String) : Decidable (d.FourPlaces a b) :=
  inferInstanceAs (Decidable (List.Nodup _))

instance (d : Disk) (later output : String) : Decidable (d.Overwrites later output) :=
  inferInstanceAs (Decidable (_ ∨ _ ∨ _))

theorem isSuffix_http : IsSuffix ".http" := ⟨by decide, by decide⟩

theorem overwrites_congr (h : e.home = d.home) (later output : String) :
    e.Overwrites later output ↔ d.Overwrites later output := by
  simp only [Overwrites, named_congr h]

/-- Two outputs and their status paths name four places exactly if neither takes a place of the
    other. -/
theorem fourPlaces_iff (d : Disk) (ha : IsDirect a) (hb : IsDirect b) :
    d.FourPlaces a b ↔ ¬ d.Overwrites b a := by
  have hself := named_append_ne isSuffix_http ha d
  have hself' := named_append_ne isSuffix_http hb d
  have hinj : d.named (a ++ ".http") = d.named (b ++ ".http") → d.named a = d.named b :=
    named_append_inj isSuffix_http ha hb
  simp only [FourPlaces, Overwrites, List.nodup_cons, List.mem_cons, List.not_mem_nil, or_false,
    not_or, List.nodup_nil, not_false_eq_true, and_true]
  constructor
  · intro h
    obtain ⟨⟨-, hab, hab'⟩, ⟨hab'', -⟩, -⟩ := h
    exact ⟨Ne.symm hab, Ne.symm hab'', Ne.symm hab'⟩
  · intro h
    obtain ⟨hab, hab', hab''⟩ := h
    refine ⟨⟨Ne.symm hself, Ne.symm hab, Ne.symm hab''⟩, ⟨Ne.symm hab', ?_⟩, Ne.symm hself'⟩
    intro heq
    exact hab (hinj heq).symm

/-- Two suffixes away there is room for another output. -/
example : FourPlaces ⟨[], []⟩ "a" "a.http.http" := by decide

/-- Outputs that can be written with their status name the same place if their status does. -/
theorem named_eq_of_status {p p' q : Location} (hp : d.fileTarget output = .ok p)
    (hq : d.fileTarget (output ++ ".http") = .ok q) (hp' : d.fileTarget later = .ok p')
    (hq' : d.fileTarget (later ++ ".http") = .ok q) : d.named later = d.named output := by
  obtain ⟨parent, name, rfl, rfl⟩ := fileTarget_append_suffix isSuffix_http.no_slash hp hq
  obtain ⟨parent', name', rfl, heq⟩ := fileTarget_append_suffix isSuffix_http.no_slash hp' hq'
  obtain ⟨rfl, hlast⟩ := List.append_inj' heq rfl
  obtain rfl := (String.append_left_inj _).1 (List.cons.inj hlast).1
  rw [← eq_named_of_fileTarget hp, ← eq_named_of_fileTarget hp']

/-! ### Files that stand -/

/-- The two files of a response stand under an output: the body as it came, and the status in
    decimal. -/
structure Keeps (d : Disk) (output : String) (response : Response) : Prop where
  body : d.look? output = some (.file response.body)
  status : d.look? (output ++ ".http") =
    some (.file (Bytes.ofText (Text.Decimal.text response.status.toNat)))

/-- The two files of a response stand under an output, where they can be written. -/
structure Stored (d : Disk) (output : String) (response : Response) : Prop
    extends Keeps d output response where
  body_target : ∃ p, d.fileTarget output = .ok p
  status_target : ∃ q, d.fileTarget (output ++ ".http") = .ok q

theorem stored_of_write {d₁ d₂ : Disk} (h : d.write output response.body = .ok d₁)
    (h' : d₁.write (output ++ ".http") (Bytes.ofText (Text.Decimal.text response.status.toNat)) =
      .ok d₂) :
    Stored d₂ output response := by
  obtain ⟨body, status, -⟩ :=
    look?_of_write_suffix isSuffix_http.no_slash isSuffix_http.ne_empty h h'
  obtain ⟨p, hp, -⟩ := write_eq_ok_iff.1 h
  obtain ⟨q, hq, -⟩ := write_eq_ok_iff.1 h'
  have hsame := sameDirectories_of_write h'
  have hsame' := (sameDirectories_of_write h).trans hsame
  exact ⟨⟨body, status⟩, ⟨p, (hsame'.fileTarget_eq_ok _ _).2 hp⟩,
    ⟨q, (hsame.fileTarget_eq_ok _ _).2 hq⟩⟩

/-- Files that are laid elsewhere leave the files of a response alone. -/
theorem Stored.lays {files : List (Location × Bytes)} (h : Stored d output response)
    (hlays : Lays d files e)
    (hfree : ∀ file ∈ files, d.named output ≠ file.1 ∧ d.named (output ++ ".http") ≠ file.1) :
    Stored e output response := by
  obtain ⟨p, hp⟩ := h.body_target
  obtain ⟨q, hq⟩ := h.status_target
  have hkept {path : String} {entry : Entry} (hlook : d.look? path = some entry)
      (hpath : ∀ file ∈ files, d.named path ≠ file.1) : e.look? path = some entry := by
    obtain ⟨r, hlocate, -⟩ := look?_eq_some_iff.1 hlook
    obtain rfl := eq_named_of_locate hlocate
    rw [hlays.look?_path_eq hlocate hpath, hlook]
  exact ⟨⟨hkept h.body fun file hfile => (hfree file hfile).1,
      hkept h.status fun file hfile => (hfree file hfile).2⟩,
    ⟨p, (hlays.directories.fileTarget_eq_ok _ _).2 hp⟩,
    ⟨q, (hlays.directories.fileTarget_eq_ok _ _).2 hq⟩⟩

end Files.Disk

/-! ### Two probes -/

/-- What a network answers to a request does not depend on what was sent before. -/
def Network.IsSteady (net : Network) : Prop :=
  ∀ sent sent' request, net sent request = net sent' request

namespace Session

/-- Two probes come to the same in either order: each finds what it finds, and in the end the same
    files stand. -/
structure Commute (root : ApiRoot) (s : Session) (first second : Errand) (net net' : Network) :
    Prop where
  first_eq : ((s.perform net' root second).2.perform net root first).1 =
    (s.perform net root first).1
  second_eq : ((s.perform net root first).2.perform net' root second).1 =
    (s.perform net' root second).1
  files_eq : Disk.SameFiles ((s.perform net root first).2.perform net' root second).2.disk
    ((s.perform net' root second).2.perform net root first).2.disk

variable {root : ApiRoot} {s : Session} {first second : Errand} {net net' : Network}

/-- A probe comes to the same after another one, which leaves the directories alone. -/
theorem perform_after {parent : Location} (hnet : net'.IsSteady)
    (hparent : s.disk.parentOf second.output = .ok parent) (net : Network) (root : ApiRoot)
    (first : Errand) :
    ((s.perform net root first).2.perform net' root second).1 =
        (second.coming root (net' s.sent (root.request second.endpoint)) s.disk).1 ∧
      Disk.Lays (s.perform net root first).2.disk
        (second.coming root (net' s.sent (root.request second.endpoint)) s.disk).2
        ((s.perform net root first).2.perform net' root second).2.disk := by
  obtain ⟨-, hlays⟩ := perform_lays net root first s
  have hafter := perform_lays net' root second (s.perform net root first).2
  rw [hnet _ s.sent, Errand.coming_congr hlays.directories hparent] at hafter
  exact hafter

theorem commute_of_fourPlaces (hnet : net.IsSteady) (hnet' : net'.IsSteady)
    (hfirst : ∃ parent, s.disk.parentOf first.output = .ok parent)
    (hsecond : ∃ parent, s.disk.parentOf second.output = .ok parent)
    (hapart : s.disk.FourPlaces first.output second.output) :
    Commute root s first second net net' := by
  obtain ⟨parent, hparent⟩ := hfirst
  obtain ⟨parent', hparent'⟩ := hsecond
  obtain ⟨hresult, hlays⟩ := perform_lays net root first s
  obtain ⟨hresult', hlays'⟩ := perform_lays net' root second s
  obtain ⟨hfirst, hagain⟩ := perform_after hnet hparent net' root second
  obtain ⟨hsecond, hagain'⟩ := perform_after hnet' hparent' net root first
  refine ⟨hfirst.trans hresult.symm, hsecond.trans hresult'.symm, ?_⟩
  apply hlays.sameFiles hagain' hlays' hagain
  intro file hfile other hother
  -- the files of the two probes stand at two and two of the four places
  have hplace := Errand.mem_files_coming hfile
  have hplace' := Errand.mem_files_coming hother
  simp only [Disk.FourPlaces, List.nodup_cons, List.mem_cons, List.not_mem_nil, or_false,
    not_or] at hapart
  obtain ⟨⟨-, hab, hab'⟩, ⟨hab'', hab'''⟩, -⟩ := hapart
  rcases hplace with hplace | hplace <;> rcases hplace' with hplace' | hplace' <;>
    rw [hplace, hplace'] <;> assumption

/-! ### Runs of probes -/

/-- The steps of a run that makes probes and nothing else. -/
def probes (calls : List (Errand × Network)) : List RunStep :=
  calls.map fun call => .probe call.1 call.2

/-- An errand whose expectation can be read is a probe with some expectation. -/
theorem exists_probe_of_isReadable {errand : Errand} (h : errand.isReadable = true) :
    ∃ expectation, s.perform net root errand =
      s.probe net root errand.endpoint expectation errand.output := by
  cases hexpression : errand.expression with
  | none =>
    refine ⟨.errorList, ?_⟩
    simp [perform, hexpression]
  | some expression =>
    cases hread : Selector.read expression with
    | error fault => simp [Errand.isReadable, hexpression, hread, Except.isOk, Except.toBool] at h
    | ok selector =>
      refine ⟨.at selector, ?_⟩
      simp [perform, hexpression, probeText_of_ok hread]

/-- A probe that gets a response keeps it, if its expectation can be read. -/
theorem disk_perform_of_ok {errand : Errand} {response : Response}
    (hreadable : errand.isReadable = true)
    (hreply : net s.sent (root.request errand.endpoint) = .ok response) :
    (s.perform net root errand).2.disk = (keep errand.output response s.disk).2 := by
  obtain ⟨expectation, hprobe⟩ := exists_probe_of_isReadable hreadable
  obtain ⟨-, hafter⟩ := probe_spec net root errand.endpoint expectation errand.output s
  rw [hprobe, hafter.disk_eq, hreply, answer]
  split
  next hkeep => rw [hkeep]
  next hkeep => rw [hkeep]

end Session

namespace Files.Disk.Stored

variable {root : ApiRoot} {s : Session} {output : String} {response : Response}

/-- The files of a response stand after a probe that does not overwrite them. -/
theorem perform (h : s.disk.Stored output response) (net : Network) (root : ApiRoot)
    {errand : Errand} (hfree : ¬ s.disk.Overwrites errand.output output) :
    (s.perform net root errand).2.disk.Stored output response := by
  obtain ⟨-, hlays⟩ := Session.perform_lays net root errand s
  obtain ⟨hsame, hbody, hstatus⟩ : s.disk.named errand.output ≠ s.disk.named output ∧
      s.disk.named errand.output ≠ s.disk.named (output ++ ".http") ∧
      s.disk.named (errand.output ++ ".http") ≠ s.disk.named output := by
    simpa [Overwrites] using hfree
  obtain ⟨p, hp⟩ := h.body_target
  obtain ⟨q, hq⟩ := h.status_target
  apply h.lays hlays
  intro file hfile
  obtain ⟨_, hfile⟩ := Errand.exists_keeping_of_mem_coming hfile
  rcases mem_files_keeping hfile with hplace | ⟨⟨p', hp'⟩, hplace⟩
  · rw [eq_named_of_fileTarget hplace]
    exact ⟨Ne.symm hsame, Ne.symm hbody⟩
  · -- one status in place of the other would mean one body in place of the other
    constructor
    · rw [eq_named_of_fileTarget hplace]
      exact Ne.symm hstatus
    · intro heq
      rw [← heq, ← eq_named_of_fileTarget hq] at hplace
      exact hsame (named_eq_of_status hp hq hp' hplace)

/-- The files of a response stand after any number of probes that do not overwrite them. -/
theorem afterRun (h : s.disk.Stored output response) (root : ApiRoot)
    {calls : List (Errand × Network)}
    (hfree : ∀ call ∈ calls, ¬ s.disk.Overwrites call.1.output output) :
    (s.afterRun root (Session.probes calls)).disk.Stored output response := by
  induction calls generalizing s with
  | nil => exact h
  | cons call calls ih =>
    have hnext := h.perform call.2 root (hfree call List.mem_cons_self)
    obtain ⟨-, hlays⟩ := Session.perform_lays call.2 root call.1 s
    apply ih hnext
    intro other hother
    rw [overwrites_congr hlays.directories.home_eq]
    exact hfree other (List.mem_cons_of_mem call hother)

end Files.Disk.Stored

/-! ### The theorem -/

/-- What is so of the probes that start from a session. -/
structure Session.KeepsApart (root : ApiRoot) (s : Session) : Prop where
  /-- Paths without special names that start at one place name the same place exactly if they have
      the same names. -/
  place_eq_iff : ∀ a b, Disk.IsDirect a → Disk.IsDirect b →
    PathText.isAbsolute a = PathText.isAbsolute b →
    (s.disk.named a = s.disk.named b ↔ PathText.names a = PathText.names b)
  /-- Two outputs and their status paths name four places exactly if the outputs do not name the
      same place and neither names the place of the other's status. -/
  four_iff : ∀ a b, Disk.IsDirect a → Disk.IsDirect b →
    (s.disk.FourPlaces a b ↔
      s.disk.named a ≠ s.disk.named b ∧ s.disk.named a ≠ s.disk.named (b ++ ".http") ∧
        s.disk.named b ≠ s.disk.named (a ++ ".http"))
  /-- Two probes of such outputs, in directories that stand, come to the same in either order. -/
  commute : ∀ first second net net', Network.IsSteady net → Network.IsSteady net' →
    (∃ parent, s.disk.parentOf first.output = .ok parent) →
    (∃ parent, s.disk.parentOf second.output = .ok parent) →
    s.disk.FourPlaces first.output second.output → Commute root s first second net net'
  /-- A probe that has written its two files leaves them for as long as no later probe overwrites
      one. -/
  lasting : ∀ errand net response d d' later, Errand.isReadable errand = true →
    net s.sent (root.request errand.endpoint) = .ok response →
    s.disk.write errand.output response.body = .ok d →
    d.write (errand.output ++ ".http") (Bytes.ofText (Text.Decimal.text response.status.toNat)) =
      .ok d' →
    (∀ call ∈ later, ¬ s.disk.Overwrites call.1.output errand.output) →
    (s.afterRun root (probes ((errand, net) :: later))).disk.Keeps errand.output response

/-- Probes whose outputs and status paths name different places leave each other alone. -/
theorem probes_keep_apart (root : ApiRoot) (s : Session) : s.KeepsApart root := by
  refine ⟨?_, ?_, ?_, ?_⟩
  · intro a b ha hb hstart
    exact Disk.named_eq_iff ha hb hstart s.disk
  · intro a b ha hb
    rw [Disk.fourPlaces_iff s.disk ha hb]
    simp only [Disk.Overwrites, not_or]
    constructor
    · intro h
      exact ⟨Ne.symm h.1, Ne.symm h.2.2, h.2.1⟩
    · intro h
      exact ⟨Ne.symm h.1, h.2.2, Ne.symm h.2.1⟩
  · intro first second net net' hnet hnet' hfirst hsecond hapart
    exact Session.commute_of_fourPlaces hnet hnet' hfirst hsecond hapart
  · intro errand net response d d' later hreadable hreply hbody hstatus hfree
    have hdisk : (s.perform net root errand).2.disk = d' := by
      have hstatus : d.write (statusPath errand.output) (statusBytes response.status) = .ok d' :=
        hstatus
      rw [Session.disk_perform_of_ok hreadable hreply]
      simp [keep, hbody, hstatus]
    have hstored : (s.perform net root errand).2.disk.Stored errand.output response := by
      rw [hdisk]
      exact Disk.stored_of_write hbody hstatus
    obtain ⟨-, hlays⟩ := Session.perform_lays net root errand s
    refine (hstored.afterRun root fun call hcall => ?_).toKeeps
    rw [Disk.overwrites_congr hlays.directories.home_eq]
    exact hfree call hcall

/-- Two outputs whose names are two suffixes apart. -/
theorem probes_keep_apart_at_suffixes :
    let response : Response := ⟨404, [], Bytes.ofText "gone", "http://host/a"⟩
    let net : Network := fun _ _ => .ok response
    let root := ApiRoot.ofUrl "http://host"
    let first : Errand := ⟨"a", some ".", "out"⟩
    let second : Errand := ⟨"b", none, "out.http.http"⟩
    let s : Session := .start "/work" "/tmp" [.makeDirectories "/work"] .numbered
    net.IsSteady ∧ (∃ parent, s.disk.parentOf first.output = .ok parent) ∧
      (∃ parent, s.disk.parentOf second.output = .ok parent) ∧
      s.disk.FourPlaces first.output second.output ∧ first.isReadable = true ∧
      net s.sent (root.request first.endpoint) = .ok response ∧
      ¬ s.disk.Overwrites second.output first.output ∧
      Session.Commute root s first second net net ∧
      (s.afterRun root (Session.probes [(first, net), (second, net)])).disk.Keeps first.output
        response := by
  intro response net root first second s
  have hapart := probes_keep_apart root s
  have hsteady : net.IsSteady := fun _ _ _ => rfl
  have hfour : s.disk.FourPlaces first.output second.output := by decide
  have hfree : ¬ s.disk.Overwrites second.output first.output := by decide
  have hfirst : s.disk.parentOf "out" = .ok ["work"] := rfl
  have hsecond : s.disk.parentOf "out.http.http" = .ok ["work"] := rfl
  obtain ⟨d, d', hbody, hstatus⟩ : ∃ d d', s.disk.write "out" response.body = .ok d ∧
      d.write ("out" ++ ".http") (Bytes.ofText (Text.Decimal.text response.status.toNat)) =
        .ok d' :=
    ⟨_, _, rfl, rfl⟩
  refine ⟨hsteady, ⟨_, hfirst⟩, ⟨_, hsecond⟩, hfour, rfl, rfl, hfree,
    hapart.commute first second net net hsteady hsteady ⟨_, hfirst⟩ ⟨_, hsecond⟩ hfour, ?_⟩
  apply hapart.lasting first net response d d' [(second, net)] rfl rfl hbody hstatus
  simpa using hfree

/-- A second slash makes another text, but not another place. -/
example (d : Disk) : d.Overwrites "a//b" "a/b" := .inl rfl

end RegistryProbe
