import RegistryProbe.Proofs.DemoRegistry.Agreement
import RegistryProbe.Proofs.Uri.Paths

/-! # Where the demonstration registry sends its clients on to

  A client that asks for a crate at its old place is sent on to the description of the crate. The
  registry puts the name into the new address as it is, without encoding it. So the client finds the
  crate there only if the name stands for itself in an address.

  - `IsCarried` says which names stand for themselves in an address.
  - `KeepsCrate` says that a client who follows a redirect gets the answer it would have got at the
    crate's own path.
  - An address with a name that is carried leads to the crate: `respond_of_carried`. An address that
    leads to a crate of its own name carries the name: `carried_of_described`.
-/

namespace RegistryProbe.DemoRegistry

variable {seed : List Crate} {uri moved crates target : Uri} {name encoded : String} {c : Crate}
  {answer : Answer}

/-! ### Names in an address -/

/-- A name stands for itself when it is put into the address of its crate. -/
structure IsCarried (name : String) : Prop where
  /-- All its characters may stand in a path. -/
  path_chars : ∀ c ∈ name.toList, Uri.isPathChar c = true
  /-- It is one part of a path. -/
  no_slash : '/' ∉ name.toList
  /-- Nothing in it is taken for an escape. -/
  no_escape : ¬ Uri.Percent.HasEscape name.toList
  /-- The address is not too long. -/
  fits : (Route.crates name).path.utf8ByteSize ≤ Uri.maxLength

theorem toList_path_crates (name : String) :
    (Route.crates name).path.toList = "/api/v1/crates/".toList ++ name.toList :=
  String.toList_append

theorem head?_path_crates (name : String) : (Route.crates name).path.toList.head? = some '/' := by
  rw [toList_path_crates]
  rfl

theorem isPathChar_path_crates : ∀ c ∈ "/api/v1/crates/".toList, Uri.isPathChar c = true :=
  List.all_eq_true.1 (by decide)

/-- A character of a path can be sent in a header. -/
theorem isHeaderChar_of_isPathChar {c : Char} (h : Uri.isPathChar c = true) :
    isHeaderChar c = true := by
  simp [Uri.isPathChar] at h
  simp [isHeaderChar]
  omega

/-! ### Answers at the addresses of crates -/

theorem eq_crates_of_path {route : Route} (h : route.path = "/api/v1/crates/" ++ encoded) :
    route = .crates encoded := by
  have h := congrArg String.toList h
  cases route with
  | crates name =>
    rw [toList_path_crates, String.toList_append] at h
    rw [String.toList_injective (List.append_cancel_left h)]
  | moved name => simp at h
  | status code => simp at h
  | broken => simp at h
  | large mib => simp at h

/-- A name that is carried leads to its crate. -/
theorem respond_of_carried (hname : name ≠ "") (h : IsCarried name) :
    ∃ target, Uri.read (Route.crates name).path = .ok target ∧
      ∀ seed, respond seed "GET" target = .ok (crateAnswer seed name) := by
  have hchars : ∀ c ∈ (Route.crates name).path.toList, Uri.isPathChar c = true := by
    rw [toList_path_crates]
    intro c hc
    rcases List.mem_append.1 hc with hc | hc
    · exact isPathChar_path_crates c hc
    · exact h.path_chars c hc
  have htext : Uri.Percent.text? name = some name := by
    rw [Uri.Percent.text?, Uri.Percent.decode_of_no_escape h.no_escape, String.ofList_toList,
      Bytes.text?_ofText]
  refine ⟨_, Uri.read_of_path (head?_path_crates name) h.fits hchars, fun seed => ?_⟩
  exact respond_crates (route?_eq_crates_iff.2 ⟨rfl, hname, h.no_slash⟩) htext

/-- A description that is found at the address of a part of a path is that of the crate whose name
    the part stands for. -/
theorem text?_of_described (hpath : uri.effectivePath = "/api/v1/crates/" ++ encoded)
    (h : respond seed "GET" uri = .ok answer) (hstatus : answer.status = 200)
    (hbody : answer.body = (description c).toBytes) :
    '/' ∉ encoded.toList ∧ Uri.Percent.text? encoded = some c.name := by
  cases hroute : route? uri.effectivePath with
  | none =>
    rw [respond_get, hroute] at h
    cases h
    cases hstatus
  | some route =>
    obtain ⟨hroutePath, hproper⟩ := route?_eq_some_iff.1 hroute
    obtain rfl := eq_crates_of_path (hroutePath.symm.trans hpath)
    rw [respond_of_route hroute, Route.answer] at h
    rcases withParameter_cases "name" encoded fun value => .ok (crateAnswer seed value) with
      ⟨value, hvalue, hanswer⟩ | ⟨refusal, hanswer, hrefused⟩
    · cases hanswer.symm.trans h
      refine ⟨(hproper encoded rfl).2, ?_⟩
      cases hfind : find? seed value with
      | none =>
        rw [crateAnswer, hfind] at hstatus
        cases hstatus
      | some c' =>
        -- the two descriptions are one, so they have one name
        rw [crateAnswer_of_find? hfind, Answer.body_ofDocument] at hbody
        have hsame : some (description c') = some (description c) := by
          rw [← ofBytes?_description, ← ofBytes?_description, hbody]
        obtain ⟨_, _, _, hname, _⟩ := find?_eq_some_iff.1 hfind
        simp only [description, Option.some.injEq, Json.object.injEq, List.cons.injEq,
          Prod.mk.injEq, Json.text.injEq, true_and, and_true] at hsame
        rw [hvalue, ← hname, hsame.2]
    · cases hanswer.symm.trans h
      cases hrefused.symm.trans hstatus

/-- A part of a name that stands for the whole name is the whole name, and holds no escape. -/
theorem eq_of_text? {front : List Char} (hfront : front <+: name.toList)
    (h : Uri.Percent.text? (String.ofList front) = some name) :
    front = name.toList ∧ ¬ Uri.Percent.HasEscape name.toList := by
  obtain ⟨rest, hrest⟩ := hfront
  have hdecode : Uri.Percent.decode front = Bytes.ofText name := by
    have := Bytes.text?_eq_some_iff.1 h
    rwa [String.toList_ofList] at this
  have hname : Bytes.ofText name =
      Bytes.ofText (String.ofList front) ++ Bytes.ofText (String.ofList rest) := by
    rw [← Bytes.ofText_append, ← String.ofList_append, hrest, String.ofList_toList]
  have hle := Uri.Percent.length_decode_le front
  have hlength := congrArg List.length hname
  rw [hdecode] at hle
  rw [List.length_append] at hlength
  have hnil : rest = [] := by
    cases rest with
    | nil => rfl
    | cons c rest =>
      have hpos := Char.utf8Size_pos c
      rw [Bytes.length_ofText_ofList_cons] at hlength
      omega
  subst hnil
  rw [List.append_nil] at hrest
  subst hrest
  refine ⟨rfl, fun hescape => ?_⟩
  have hlt := Uri.Percent.length_decode_lt hescape
  rw [hdecode, String.ofList_toList] at hlt
  exact Nat.lt_irrefl _ hlt

/-- An address with a name leads to a crate of this name only if it carries the name. -/
theorem carried_of_described (hread : Uri.read (Route.crates c.name).path = .ok target)
    (h : respond seed "GET" target = .ok answer) (hstatus : answer.status = 200)
    (hbody : answer.body = (description c).toBytes) : IsCarried c.name := by
  obtain ⟨hfits, hpath, hchars⟩ := Uri.path_of_read (head?_path_crates c.name) hread
  rw [toList_path_crates, Uri.beforeMarks_append isPathChar_path_crates] at hpath hchars
  rw [String.ofList_append, String.ofList_toList] at hpath
  obtain ⟨hslash, htext⟩ := text?_of_described hpath h hstatus hbody
  obtain ⟨hfront, hescape⟩ := eq_of_text? (Uri.beforeMarks_prefix c.name.toList) htext
  rw [hfront] at hslash hchars
  refine ⟨fun d hd => hchars d (List.mem_append_right _ hd), ?_, hescape, hfits⟩
  rwa [String.toList_ofList] at hslash

/-! ### Redirects -/

/-- Two paths name a crate in one spelling: its old place and its own path. -/
structure NameAlike (moved crates : Uri) (name : String) : Prop where
  nonempty : name ≠ ""
  spelling : ∃ spelling, moved.effectivePath = "/api/v1/moved/" ++ spelling ∧
    crates.effectivePath = "/api/v1/crates/" ++ spelling ∧ '/' ∉ spelling.toList ∧
    Uri.Percent.Spells (Bytes.ofText name) spelling.toList

theorem NameAlike.spells (h : NameAlike moved crates name) : Spells crates name := by
  obtain ⟨spelling, -, hcrates, hslash, hspells⟩ := h.spelling
  exact ⟨h.nonempty, spelling, hcrates, hslash, hspells⟩

theorem respond_moved (h : NameAlike moved crates name) (seed : List Crate) :
    respond seed "GET" moved = .ok (movedAnswer name) := by
  obtain ⟨spelling, hmoved, -, hslash, hspells⟩ := h.spelling
  have hne := Uri.Percent.ne_empty_of_spells hspells h.nonempty
  have hroute : route? moved.effectivePath = some (.moved spelling) :=
    route?_of_parameter rfl hmoved hne hslash
  rw [respond_of_route hroute, Route.answer,
    withParameter_of_text? (Uri.Percent.text?_of_spells hspells)]

/-- A name that can be sent in a header is sent as it is, and another one not at all. -/
theorem movedAnswer_cases (name : String) :
    ((∀ c ∈ name.toList, isHeaderChar c = true) ∧
      movedAnswer name = { status := 307, location := some (Route.crates name).path }) ∨
    ((¬ ∀ c ∈ name.toList, isHeaderChar c = true) ∧ (movedAnswer name).status = 500 ∧
      (movedAnswer name).location = none) := by
  have hstart : pathStart ++ "crates/" = "/api/v1/crates/" := by decide
  have hall : ("/api/v1/crates/" ++ name).toList.all isHeaderChar = true ↔
      ∀ c ∈ name.toList, isHeaderChar c = true := by
    rw [String.toList_append, List.all_append, List.all_eq_true.2 ?_, Bool.true_and,
      List.all_eq_true]
    exact fun c hc => isHeaderChar_of_isPathChar (isPathChar_path_crates c hc)
  unfold movedAnswer
  rw [hstart]
  by_cases h : ∀ c ∈ name.toList, isHeaderChar c = true
  · exact .inl ⟨h, if_pos (hall.2 h)⟩
  · rw [if_neg (mt hall.1 h)]
    exact .inr ⟨h, rfl, rfl⟩

/-- Two addresses give answers with one status and one body. -/
def AnswerAlike (seed : List Crate) (uri other : Uri) : Prop :=
  ∃ answer same, respond seed "GET" uri = .ok answer ∧ respond seed "GET" other = .ok same ∧
    answer.status = same.status ∧ answer.body = same.body

/-- A client that is sent on gets the answer that it would have got at the crate's own path. -/
structure KeepsCrate (seed : List Crate) (moved crates : Uri) : Prop where
  /-- It is sent on. -/
  status : ∃ sent, respond seed "GET" moved = .ok sent ∧ sent.status = 307
  /-- It is sent to an address, and what it finds there is the same. -/
  followed : ∃ sent location target, respond seed "GET" moved = .ok sent ∧
    sent.location = some location ∧ Uri.read location = .ok target ∧
    AnswerAlike seed target crates

theorem keepsCrate_of_carried (h : NameAlike moved crates name) (hcarried : IsCarried name)
    (seed : List Crate) : KeepsCrate seed moved crates := by
  have hsent : respond seed "GET" moved =
      .ok { status := 307, location := some (Route.crates name).path } := by
    rw [respond_moved h]
    rcases movedAnswer_cases name with ⟨-, hsent⟩ | ⟨hnot, -⟩
    · rw [hsent]
    · exact absurd (fun c hc => isHeaderChar_of_isPathChar (hcarried.path_chars c hc)) hnot
  obtain ⟨target, hread, hfound⟩ := respond_of_carried h.nonempty hcarried
  refine ⟨⟨_, hsent, rfl⟩, _, _, target, hsent, rfl, hread, ?_⟩
  exact ⟨_, _, hfound seed, respond_of_spells h.spells, rfl, rfl⟩

theorem carried_of_keepsCrate (h : NameAlike moved crates name) (hseed : ∃ c ∈ seed, c.name = name)
    (hkeeps : KeepsCrate seed moved crates) : IsCarried name := by
  obtain ⟨sent, location, target, hsent, hlocation, hread, halike⟩ := hkeeps.followed
  obtain ⟨answer, same, hanswer, hsame, hstatus, hbody⟩ := halike
  have hpath : location = (Route.crates name).path := by
    cases (respond_moved h seed).symm.trans hsent
    rcases movedAnswer_cases name with ⟨-, hmoved⟩ | ⟨-, -, hnone⟩
    · rw [hmoved] at hlocation
      exact (Option.some.inj hlocation).symm
    · cases hnone.symm.trans hlocation
  subst hpath
  cases (respond_of_spells h.spells).symm.trans hsame
  cases hfind : find? seed name with
  | none =>
    obtain ⟨c, hc, hname⟩ := hseed
    exact absurd hname (find?_eq_none_iff.1 hfind c hc)
  | some c =>
    rw [crateAnswer_of_find? hfind] at hstatus hbody
    rw [Answer.status_ofDocument] at hstatus
    rw [Answer.body_ofDocument] at hbody
    obtain ⟨_, _, _, hname, _⟩ := find?_eq_some_iff.1 hfind
    subst hname
    exact carried_of_described hread hanswer hstatus hbody

/-! ### The theorem -/

/-- What becomes of clients that look for a crate at its old place. -/
structure SentOn (moved crates : Uri) (name : String) : Prop where
  /-- They are answered. -/
  answered : ∀ seed, ∃ sent, respond seed "GET" moved = .ok sent
  /-- They are sent on exactly if the name can be sent in a header. -/
  sent_iff : ∀ seed sent, respond seed "GET" moved = .ok sent →
    (sent.status = 307 ↔ ∀ c ∈ name.toList, isHeaderChar c = true)
  /-- The name goes into the address as it is. -/
  location : ∀ seed sent location, respond seed "GET" moved = .ok sent →
    sent.location = some location → location = "/api/v1/crates/" ++ name
  /-- If the name is carried, they get what they would have got at the crate's own path. -/
  kept : IsCarried name → ∀ seed, KeepsCrate seed moved crates
  /-- If the crate is there and the name is not carried, they do not. -/
  kept_iff : ∀ seed, (∃ c ∈ seed, c.name = name) →
    (KeepsCrate seed moved crates ↔ IsCarried name)

/-- A redirect leads to the crate that was asked for exactly if the name of the crate stands for
    itself in an address. -/
theorem redirects_keep_carried_names (moved crates : Uri) (name : String)
    (alike : NameAlike moved crates name) : SentOn moved crates name := by
  have hrespond := respond_moved alike
  refine ⟨fun seed => ⟨_, hrespond seed⟩, fun seed sent hsent => ?_,
    fun seed sent location hsent hlocation => ?_, keepsCrate_of_carried alike, ?_⟩
  · cases (hrespond seed).symm.trans hsent
    rcases movedAnswer_cases name with ⟨hchars, hmoved⟩ | ⟨hchars, hstatus, -⟩
    · rw [hmoved]
      exact iff_of_true rfl hchars
    · rw [hstatus]
      exact iff_of_false (by decide) hchars
  · cases (hrespond seed).symm.trans hsent
    rcases movedAnswer_cases name with ⟨-, hmoved⟩ | ⟨-, -, hnone⟩
    · rw [hmoved] at hlocation
      exact (Option.some.inj hlocation).symm
    · cases hnone.symm.trans hlocation
  · intro seed hseed
    constructor
    · exact carried_of_keepsCrate alike hseed
    · intro hcarried
      exact keepsCrate_of_carried alike hcarried seed

/-- A name in a spelling of its own. -/
theorem redirects_keep_carried_names_at_serde :
    NameAlike (Uri.ofPath "/api/v1/moved/%73erde") (Uri.ofPath "/api/v1/crates/%73erde") "serde" ∧
      SentOn (Uri.ofPath "/api/v1/moved/%73erde") (Uri.ofPath "/api/v1/crates/%73erde")
        "serde" := by
  have hbytes : Bytes.ofText "serde" = 0x73 :: Bytes.ofText (String.ofList "erde".toList) := by
    decide
  have hspells : Uri.Percent.Spells (Bytes.ofText "serde") "%73erde".toList := by
    rw [hbytes]
    exact .hex (by decide) (Uri.Percent.spells_self (by decide))
  have halike : NameAlike (Uri.ofPath "/api/v1/moved/%73erde") (Uri.ofPath "/api/v1/crates/%73erde")
      "serde" :=
    ⟨by decide, "%73erde", by decide, by decide, by decide, hspells⟩
  exact ⟨halike, redirects_keep_carried_names _ _ _ halike⟩

/-- A question mark in a name ends the path of the address that the client is sent to. -/
theorem redirect_drops_question :
    ¬ ∀ (seed : List Crate) (moved crates : Uri) (name : String),
      NameAlike moved crates name → KeepsCrate seed moved crates := by
  intro h
  have hbytes : Bytes.ofText "serde?x" = Bytes.ofText (String.ofList "serde".toList) ++
      0x3F :: Bytes.ofText (String.ofList "x".toList) := by
    decide
  have hspells : Uri.Percent.Spells (Bytes.ofText "serde?x")
      ("serde".toList ++ '%' :: '3' :: 'F' :: "x".toList) := by
    rw [hbytes]
    exact (Uri.Percent.spells_self (by decide)).append
      (.hex (by decide) (Uri.Percent.spells_self (by decide)))
  have halike : NameAlike (Uri.ofPath "/api/v1/moved/serde%3Fx")
      (Uri.ofPath "/api/v1/crates/serde%3Fx") "serde?x" :=
    ⟨by decide, "serde%3Fx", by decide, by decide, by decide, hspells⟩
  have hkeeps := h [⟨"serde", "1.0.0"⟩, ⟨"serde?x", "2.0.0"⟩] _ _ _ halike
  have hcarried : IsCarried "serde?x" := carried_of_keepsCrate halike (by decide) hkeeps
  have := hcarried.path_chars '?' (by decide)
  revert this
  decide

end RegistryProbe.DemoRegistry
