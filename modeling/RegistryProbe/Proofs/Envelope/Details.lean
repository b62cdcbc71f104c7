import RegistryProbe.Envelope

/-! # Which texts the details are

  The details of a document come out of the reader of entries. Here it is said without that reader
  which texts they are:

  - `ErrorEntry.Names` and `ErrorEntry.Tells` say which text an entry tells. An entry is mostly an
    object that names its detail; a record of one field may also be given by its place alone.
  - `Envelope.Lists` says which entries a document lists, and `Gathers` takes the texts of several
    entries together, in order and one for each entry that tells one.
  - `Envelope.DetailsAre` is the whole law of the details of a document, for one notion of what an
    entry tells. For `Tells` it always holds, and for `Names` if no entry is given by its place:
    `detailsAre_names_iff`.
-/

namespace RegistryProbe

/-! ### What an entry tells -/

theorem Json.text?_eq_some_iff {v : Json} {s : String} : v.text? = some s ↔ v = .text s := by
  cases v <;> simp [text?]

namespace ErrorEntry

/-- An entry names a text: it is an object whose member `detail` is this text. -/
inductive Names : Json → String → Prop where
  /-- Whatever other members the object has. -/
  | object {members : List (String × Json)} {s : String}
      (named : members.lookup "detail" = some (.text s)) : Names (.object members) s

/-- An entry tells a text. -/
inductive Tells : Json → String → Prop where
  /-- The entry names it. -/
  | byName {entry : Json} {s : String} (named : Names entry s) : Tells entry s
  /-- The entry is the array of the fields of a record, of which there is only this one. -/
  | byPlace (s : String) : Tells (.array [.text s]) s

theorem detail_ofDetail? (v : Json) : (ofDetail? v).bind detail = v.text? := by
  cases v <;> rfl

/-- An entry that is not given by its place tells what it names. -/
theorem tells_iff_names {entry : Json} (h : ∀ s, entry ≠ .array [.text s]) (s : String) :
    Tells entry s ↔ Names entry s := by
  constructor
  · intro htells
    cases htells with
    | byName named => exact named
    | byPlace => exact absurd rfl (h s)
  · exact .byName

theorem not_names_of_place (s s' : String) : ¬ Names (.array [.text s]) s' := nofun

/-- The text that the reader finds in an entry. -/
def told? (entry : Json) : Option String := (ofJson? entry).bind detail

/-- The reader finds in an entry the text that it tells, and no other. -/
theorem told?_eq_some_iff {entry : Json} {s : String} : told? entry = some s ↔ Tells entry s := by
  constructor
  · intro h
    match entry with
    | .object members =>
      refine .byName (.object ?_)
      rcases hlookup : members.lookup "detail" with _ | v
      · simp [told?, ofJson?, hlookup] at h
      · simp only [told?, ofJson?, hlookup, detail_ofDetail?, Json.text?_eq_some_iff] at h
        rw [h]
    | .array [v] =>
      rw [told?, ofJson?, detail_ofDetail?, Json.text?_eq_some_iff] at h
      exact h ▸ .byPlace s
    | .array [] | .array (_ :: _ :: _) => cases h
    | .null | .bool _ | .number _ | .text _ => cases h
  · intro htells
    cases htells with
    | byName hnames =>
      obtain ⟨named⟩ := hnames
      simp [told?, ofJson?, named, ofDetail?]
    | byPlace => rfl

end ErrorEntry

/-! ### Gathering what is told -/

section Gathers

variable {α β : Type} {R : α → β → Prop}

/-- What several things tell, in order: one for each thing that tells something. -/
inductive Gathers (R : α → β → Prop) : List α → List β → Prop where
  /-- Nothing is left. -/
  | nil : Gathers R [] []
  /-- The first thing tells something. -/
  | told {a : α} {b : β} {as : List α} {bs : List β} (tells : R a b)
      (rest : Gathers R as bs) : Gathers R (a :: as) (b :: bs)
  /-- The first thing tells nothing. -/
  | silent {a : α} {as : List α} {bs : List β} (tells : ∀ b, ¬ R a b)
      (rest : Gathers R as bs) : Gathers R (a :: as) bs

/-- Another notion by which the things at hand tell the same gathers the same. -/
theorem Gathers.congr {S : α → β → Prop} {as : List α} {bs : List β} (hgathers : Gathers R as bs)
    (h : ∀ a ∈ as, ∀ b, R a b ↔ S a b) : Gathers S as bs := by
  induction hgathers with
  | nil => exact .nil
  | @told a _ _ _ tells _ ih =>
    have hrest := ih fun a ha => h a (List.mem_cons_of_mem _ ha)
    exact .told ((h a List.mem_cons_self _).1 tells) hrest
  | @silent a _ _ tells _ ih =>
    have hrest := ih fun a ha => h a (List.mem_cons_of_mem _ ha)
    exact .silent (fun b => mt (h a List.mem_cons_self b).2 (tells b)) hrest

/-- A function that finds what each thing tells gathers what all of them tell. -/
theorem gathers_iff_filterMap {f : α → Option β} (hf : ∀ a b, f a = some b ↔ R a b)
    {as : List α} {bs : List β} : Gathers R as bs ↔ as.filterMap f = bs := by
  constructor
  · intro h
    induction h with
    | nil => rfl
    | told tells _ ih => rw [List.filterMap_cons_some ((hf _ _).2 tells), ih]
    | silent tells _ ih =>
      have hnone := Option.eq_none_iff_forall_not_mem.2 fun b hb => tells b ((hf _ _).1 hb)
      rw [List.filterMap_cons_none hnone, ih]
  · intro hbs
    subst hbs
    induction as with
    | nil => exact .nil
    | cons a as ih =>
      rcases h : f a with _ | b
      · rw [List.filterMap_cons_none h]
        refine .silent (fun b hb => ?_) ih
        cases h.symm.trans ((hf a b).2 hb)
      · rw [List.filterMap_cons_some h]
        exact .told ((hf a b).1 h) ih

end Gathers

/-! ### The details of a document -/

namespace Envelope

/-- A document lists entries: it is an object whose member `errors` is the array of them. -/
inductive Lists : Json → List Json → Prop where
  /-- Whatever other members the object has. -/
  | object {members : List (String × Json)} {entries : List Json}
      (listed : members.lookup "errors" = some (.array entries)) : Lists (.object members) entries

theorem lists_iff {d : Json} {entries : List Json} :
    Lists d entries ↔ (d.member? "errors").bind Json.items? = some entries := by
  constructor
  · intro hlists
    obtain ⟨listed⟩ := hlists
    simp [Json.member?, listed, Json.items?]
  · intro h
    obtain ⟨v, hmember, hitems⟩ := Option.bind_eq_some_iff.1 h
    cases v with
    | array items =>
      cases hitems
      cases d with
      | object members => exact .object hmember
      | _ => cases hmember
    | _ => cases hitems

theorem details_of_lists {d : Json} {entries : List Json} (h : Lists d entries) :
    details d = entries.filterMap ErrorEntry.told? := by
  rw [details, lists_iff.1 h, Option.getD_some]
  rfl

theorem details_of_not_lists {d : Json} (h : ∀ entries, ¬ Lists d entries) : details d = [] := by
  have hnone : (d.member? "errors").bind Json.items? = none :=
    Option.eq_none_iff_forall_not_mem.2 fun entries hsome => h entries (lists_iff.2 hsome)
  rw [details, hnone, Option.getD_none, List.filterMap_nil]

/-- What the details of a document are, for one notion of what an entry tells. -/
structure DetailsAre (Tells : Json → String → Prop) (d : Json) : Prop where
  /-- They are what the listed entries tell, in order. -/
  gathered : ∀ entries, Lists d entries → ∀ told, details d = told ↔ Gathers Tells entries told
  /-- An entry that tells nothing may as well not be there. -/
  apart : ∀ d' before entry after, Lists d (before ++ entry :: after) →
    Lists d' (before ++ after) → (∀ s, ¬ Tells entry s) → details d = details d'
  /-- A document that lists no entries has no details. -/
  absent : (∀ entries, ¬ Lists d entries) → details d = []

theorem detailsAre_tells (d : Json) : DetailsAre ErrorEntry.Tells d where
  gathered entries hlists told := by
    rw [details_of_lists hlists]
    exact (gathers_iff_filterMap fun _ _ => ErrorEntry.told?_eq_some_iff).symm
  apart d' before entry after hlists hlists' hsilent := by
    have hnone : ErrorEntry.told? entry = none := Option.eq_none_iff_forall_not_mem.2 fun s hs =>
      hsilent s (ErrorEntry.told?_eq_some_iff.1 hs)
    rw [details_of_lists hlists, details_of_lists hlists', List.filterMap_append,
      List.filterMap_cons_none hnone, List.filterMap_append]
  absent := details_of_not_lists

/-- An entry that is given by its place tells one text more than those that name one. -/
theorem length_details_of_place {d d' : Json} {before after : List Json} {s : String}
    (h : Lists d (before ++ .array [.text s] :: after)) (h' : Lists d' (before ++ after)) :
    (details d).length = (details d').length + 1 := by
  have htold : ErrorEntry.told? (.array [.text s]) = some s := rfl
  rw [details_of_lists h, details_of_lists h', List.filterMap_append,
    List.filterMap_cons_some htold, List.filterMap_append]
  simp only [List.length_append, List.length_cons]
  omega

/-- The details are what the entries name exactly if no entry is given by its place. -/
theorem detailsAre_names_iff (d : Json) : DetailsAre ErrorEntry.Names d ↔
    ∀ entries s, Lists d entries → .array [.text s] ∉ entries := by
  constructor
  · intro law entries s hlists hmem
    -- without this entry there is one text less
    obtain ⟨before, after, rfl⟩ := List.append_of_mem hmem
    have hwithout : Lists (.object [("errors", .array (before ++ after))]) (before ++ after) :=
      .object rfl
    have hsame := law.apart _ _ _ _ hlists hwithout (ErrorEntry.not_names_of_place s)
    have hlength := length_details_of_place hlists hwithout
    rw [hsame] at hlength
    omega
  · intro hplaces
    have hnames {entries : List Json} (hlists : Lists d entries) :
        ∀ entry ∈ entries, ∀ s, ErrorEntry.Tells entry s ↔ ErrorEntry.Names entry s := by
      intro entry hmem
      apply ErrorEntry.tells_iff_names
      rintro s rfl
      exact hplaces entries s hlists hmem
    have law := detailsAre_tells d
    refine ⟨fun entries hlists told => ?_, fun d' before entry after hlists hlists' hsilent => ?_,
      law.absent⟩
    · rw [law.gathered entries hlists]
      constructor
      · exact fun hgathers => hgathers.congr (hnames hlists)
      · exact fun hgathers => hgathers.congr fun entry hmem s => (hnames hlists entry hmem s).symm
    · refine law.apart d' before entry after hlists hlists' fun s => ?_
      exact mt (hnames hlists entry (by simp) s).1 (hsilent s)

/-- The details of a document are exactly what its entries tell, whether they name it or give it
    by its place. So they are what the entries name if none is given by its place, and only then. -/
theorem details_are_told (d : Json) : DetailsAre ErrorEntry.Tells d ∧
    (DetailsAre ErrorEntry.Names d ↔
      ∀ entries s, Lists d entries → .array [.text s] ∉ entries) :=
  ⟨detailsAre_tells d, detailsAre_names_iff d⟩

/-- Objects that name a detail are not the only entries that tell one: the only entry of
    `{"errors": [["x"]]}` is an array. -/
theorem details_are_not_named : ¬ ∀ d, DetailsAre ErrorEntry.Names d := by
  intro law
  have hlists : Lists (.object [("errors", .array [.array [.text "x"]])]) [.array [.text "x"]] :=
    .object rfl
  cases ((law _).gathered _ hlists ["x"]).1 rfl with
  | told hnames _ => cases hnames
  | silent _ hrest => cases hrest

end Envelope

end RegistryProbe
