import RegistryProbe.Crate
import RegistryProbe.Proofs.Envelope.Readings

/-! # Records survive the wire

  Crates, error entries and error envelopes are written as objects and read from more than that:
  from objects with any further members, and from the array of their fields.

  - `Stands` says for each kind of record which documents are read as which record. It looks at the
    shape of the document alone, and the readers find exactly this.
  - `Format` puts together how one kind of record is read and written, and `SurvivesWire` is what is
    asked of a format: what is written comes back, also through bytes, and what was read once does
    not change any more. The written form is an object of the declared fields and of nothing else.
  - `records_survive_wire` says that it is so for all three.
-/

namespace RegistryProbe

/-! ### Formats of records -/

/-- A document is an object of the given members, in whatever order. -/
def Json.HasMembers (d : Json) (fields : List (String × Json)) : Prop :=
  ∃ members, d = .object members ∧ members.Perm fields

/-- How the records of one kind are read and written. -/
structure Format (α : Type) where
  /-- Reads a record. -/
  read : Json → Option α
  /-- Writes a record. -/
  write : α → Json
  /-- Which documents stand for which record. -/
  Stands : Json → α → Prop
  /-- The declared fields of a record that has them, with their values. -/
  fields : α → List (String × Json)

namespace Format

variable {α : Type} (f : Format α)

/-- The bytes of a record. -/
def send (x : α) : Bytes := (f.write x).toBytes

/-- The record that comes in as bytes. -/
def receive (b : Bytes) : Option α := (Json.ofBytes? b).bind f.read

/-- What becomes of the bytes of a record that is received and sent again. -/
def renew (b : Bytes) : Option Bytes := (f.receive b).map f.send

/-- The records of one kind survive the wire. -/
structure SurvivesWire : Prop where
  /-- A document is read if it stands for a record, and then as this record. -/
  accepted : ∀ d x, f.read d = some x ↔ f.Stands d x
  /-- What is written is read back. -/
  returned : ∀ x, f.read (f.write x) = some x
  /-- So it is when it goes through bytes. -/
  received : ∀ x, f.receive (f.send x) = some x
  /-- From whatever document a record was read, it is read again from its own written form. -/
  kept : ∀ d x, f.Stands d x → f.read (f.write x) = f.read d
  /-- Bytes that have been received and sent once do not change any more. -/
  settled : ∀ b b', f.renew b = some b' → f.renew b' = some b'
  /-- What is written is an object of the declared fields and of nothing else. -/
  declared : ∀ x, (f.write x).HasMembers (f.fields x)
  /-- And so is what is sent. -/
  declared_sent : ∀ x, ∃ d, Json.ofBytes? (f.send x) = some d ∧ d.HasMembers (f.fields x)

variable {f}

/-- Records survive the wire if their documents are those that are read, and if what is sent of a
    record is an object of its fields that stands for it. -/
theorem survivesWire_of_sent (accepted : ∀ d x, f.read d = some x ↔ f.Stands d x)
    (written : ∀ x, (f.write x).HasMembers (f.fields x) ∧ f.read (f.write x) = some x)
    (sent : ∀ x, ∃ d, Json.ofBytes? (f.send x) = some d ∧ d.HasMembers (f.fields x) ∧
      f.read d = some x) : f.SurvivesWire := by
  have received : ∀ x, f.receive (f.send x) = some x := by
    intro x
    obtain ⟨d, hbytes, -, hread⟩ := sent x
    rw [receive, hbytes, Option.bind_some, hread]
  refine ⟨accepted, fun x => (written x).2, received, ?_, ?_, fun x => (written x).1, ?_⟩
  · intro d x h
    rw [(written x).2, (accepted d x).2 h]
  · intro b b' h
    obtain ⟨x, -, rfl⟩ := Option.map_eq_some_iff.1 h
    rw [renew, received x, Option.map_some]
  · intro x
    obtain ⟨d, hbytes, hmembers, -⟩ := sent x
    exact ⟨d, hbytes, hmembers⟩

end Format

/-! ### Crates -/

namespace Crate

/-- A document stands for a crate. -/
inductive Stands : Json → Crate → Prop where
  /-- It names the two fields, whatever other members it has. -/
  | object {members : List (String × Json)} {name maxVersion : String}
      (named : members.lookup "name" = some (.text name))
      (versioned : members.lookup "max_version" = some (.text maxVersion)) :
      Stands (.object members) ⟨name, maxVersion⟩
  /-- It is the array of the two fields. -/
  | array (name maxVersion : String) :
      Stands (.array [.text name, .text maxVersion]) ⟨name, maxVersion⟩

/-- The format of crates. -/
def format : Format Crate where
  read := ofJson?
  write := toJson
  Stands := Stands
  fields c := [("name", .text c.name), ("max_version", .text c.maxVersion)]

variable {d : Json} {c : Crate}

theorem ofJson?_eq_some_iff : ofJson? d = some c ↔ Stands d c := by
  constructor
  · intro h
    match d with
    | .object members =>
      obtain ⟨name, hname, h⟩ := Option.bind_eq_some_iff.1 h
      obtain ⟨maxVersion, hversion, h⟩ := Option.bind_eq_some_iff.1 h
      obtain ⟨v, hv, hvtext⟩ := Option.bind_eq_some_iff.1 hname
      obtain ⟨w, hw, hwtext⟩ := Option.bind_eq_some_iff.1 hversion
      rw [Json.text?_eq_some_iff] at hvtext hwtext
      subst hvtext hwtext
      cases h
      exact .object hv hw
    | .array [.text name, .text maxVersion] =>
      cases h
      exact .array name maxVersion
  · intro h
    cases h with
    | object named versioned => simp [ofJson?, named, versioned, Json.text?]
    | array => rfl

/-- The members of a crate are sent in the order of their names. -/
theorem ordered_toJson (c : Crate) : c.toJson.ordered =
    .object [("max_version", .text c.maxVersion), ("name", .text c.name)] := by
  simp only [toJson, Json.ordered, Json.orderedMembers]
  exact Json.ofMembers_pair_swap (by decide) _ _

theorem ofBytes?_toBytes_toJson (c : Crate) : Json.ofBytes? c.toJson.toBytes =
    some (.object [("max_version", .text c.maxVersion), ("name", .text c.name)]) := by
  have hdepth : c.toJson.depth ≤ Json.maxDepth := by
    simp [toJson, Json.depth, Json.membersDepth, Json.maxDepth]
  rw [Json.ofBytes?_toBytes rfl hdepth, ordered_toJson]

theorem survivesWire_format : format.SurvivesWire := by
  refine Format.survivesWire_of_sent (fun d c => ofJson?_eq_some_iff) ?_ ?_
  · intro c
    exact ⟨⟨_, rfl, .refl _⟩, ofJson?_toJson c⟩
  · intro c
    exact ⟨_, ofBytes?_toBytes_toJson c, ⟨_, rfl, .swap _ _ _⟩, rfl⟩

end Crate

/-! ### Error entries -/

namespace ErrorEntry

/-- A value stands for a detail that may be missing. -/
inductive DetailStands : Json → Option String → Prop where
  /-- The value `null` stands for none. -/
  | null : DetailStands .null none
  /-- A string stands for itself. -/
  | text (s : String) : DetailStands (.text s) (some s)

/-- A document stands for an entry. -/
inductive Stands : Json → ErrorEntry → Prop where
  /-- It is an object without a detail. -/
  | absent {members : List (String × Json)} (unnamed : members.lookup "detail" = none) :
      Stands (.object members) ⟨none⟩
  /-- It names the detail, whatever other members it has. -/
  | object {members : List (String × Json)} {v : Json} {detail : Option String}
      (named : members.lookup "detail" = some v) (stands : DetailStands v detail) :
      Stands (.object members) ⟨detail⟩
  /-- It is an array that stops short of the detail. -/
  | short : Stands (.array []) ⟨none⟩
  /-- It is the array of the one field. -/
  | array {v : Json} {detail : Option String} (stands : DetailStands v detail) :
      Stands (.array [v]) ⟨detail⟩

/-- The format of error entries. An entry without a detail has no field at all. -/
def format : Format ErrorEntry where
  read := ofJson?
  write := toJson
  Stands := Stands
  fields e := (e.detail.map fun s => ("detail", Json.text s)).toList

variable {d v : Json} {e : ErrorEntry}

theorem ofDetail?_eq_some_iff : ofDetail? v = some e ↔ DetailStands v e.detail := by
  obtain ⟨detail⟩ := e
  constructor
  · intro h
    match v with
    | .null =>
      cases h
      exact .null
    | .text s =>
      cases h
      exact .text s
  · intro h
    cases h with
    | null => rfl
    | text s => rfl

theorem ofJson?_eq_some_iff : ofJson? d = some e ↔ Stands d e := by
  constructor
  · intro h
    match d with
    | .object members =>
      cases hlookup : members.lookup "detail" with
      | none =>
        simp only [ofJson?, hlookup, Option.some.injEq] at h
        exact h ▸ .absent hlookup
      | some v =>
        simp only [ofJson?, hlookup] at h
        exact .object hlookup (ofDetail?_eq_some_iff.1 h)
    | .array [] =>
      cases h
      exact .short
    | .array [v] => exact .array (ofDetail?_eq_some_iff.1 h)
  · intro h
    cases h with
    | absent unnamed => simp [ofJson?, unnamed]
    | object named stands =>
      simp only [ofJson?, named]
      exact ofDetail?_eq_some_iff.2 stands
    | short => rfl
    | array stands => exact ofDetail?_eq_some_iff.2 stands

theorem hasMembers_toJson (e : ErrorEntry) : e.toJson.HasMembers (format.fields e) := by
  obtain ⟨_ | s⟩ := e
  · exact ⟨_, rfl, .refl _⟩
  · exact ⟨_, rfl, .refl _⟩

/-- A detail is written exactly if there is one. -/
theorem member?_detail_toJson (e : ErrorEntry) :
    e.toJson.member? "detail" = e.detail.map Json.text := by
  obtain ⟨_ | s⟩ := e <;> rfl

theorem ofBytes?_toBytes_toJson (e : ErrorEntry) :
    Json.ofBytes? e.toJson.toBytes = some e.toJson := by
  have hdepth : e.toJson.depth ≤ Json.maxDepth := Nat.le_trans e.depth_toJson_le (by decide)
  rw [Json.ofBytes?_toBytes e.isPlain_toJson hdepth, ordered_toJson]

theorem survivesWire_format : format.SurvivesWire := by
  refine Format.survivesWire_of_sent (fun d e => ofJson?_eq_some_iff) ?_ ?_
  · intro e
    exact ⟨hasMembers_toJson e, ofJson?_toJson e⟩
  · intro e
    exact ⟨e.toJson, ofBytes?_toBytes_toJson e, hasMembers_toJson e, ofJson?_toJson e⟩

end ErrorEntry

/-! ### Error envelopes -/

namespace Envelope

/-- A document stands for an envelope. -/
inductive Stands : Json → Envelope → Prop where
  /-- It names the list of entries, whatever other members it has. -/
  | object {members : List (String × Json)} {entries : List Json} {errors : List ErrorEntry}
      (listed : members.lookup "errors" = some (.array entries))
      (stand : List.Forall₂ ErrorEntry.Stands entries errors) :
      Stands (.object members) ⟨errors⟩
  /-- It is the array of the one field. -/
  | array {entries : List Json} {errors : List ErrorEntry}
      (stand : List.Forall₂ ErrorEntry.Stands entries errors) :
      Stands (.array [.array entries]) ⟨errors⟩

/-- The format of error envelopes. Each entry stands in its own written form. -/
def format : Format Envelope where
  read := ofJson?
  write := toJson
  Stands := Stands
  fields e := [("errors", .array (e.errors.map ErrorEntry.toJson))]

variable {d v : Json} {e : Envelope}

/-- Entries are read if they are an array, each of whose items stands for an entry. -/
theorem ofEntries?_eq_some_iff : ofEntries? v = some e ↔
    ∃ entries, v = .array entries ∧ List.Forall₂ ErrorEntry.Stands entries e.errors := by
  have hstands : (fun v entry => ErrorEntry.ofJson? v = some entry) = ErrorEntry.Stands := by
    funext v entry
    exact propext ErrorEntry.ofJson?_eq_some_iff
  obtain ⟨errors⟩ := e
  constructor
  · intro h
    match v with
    | .array entries =>
      obtain ⟨errors', hread, heq⟩ := Option.bind_eq_some_iff.1 h
      cases heq
      exact ⟨entries, rfl, hstands ▸ mapM_eq_some_iff_forall₂.1 hread⟩
  · intro h
    obtain ⟨entries, rfl, hread⟩ := h
    rw [← hstands, ← mapM_eq_some_iff_forall₂] at hread
    simp [ofEntries?, Json.items?, hread]

theorem ofJson?_eq_some_iff : ofJson? d = some e ↔ Stands d e := by
  constructor
  · intro h
    match d with
    | .object members =>
      obtain ⟨v, hlookup, h⟩ := Option.bind_eq_some_iff.1 h
      obtain ⟨entries, rfl, hstand⟩ := ofEntries?_eq_some_iff.1 h
      exact .object hlookup hstand
    | .array [v] =>
      obtain ⟨entries, rfl, hstand⟩ := ofEntries?_eq_some_iff.1 h
      exact .array hstand
  · intro h
    cases h with
    | object listed stand =>
      rw [ofJson?, listed]
      exact ofEntries?_eq_some_iff.2 ⟨_, rfl, stand⟩
    | array stand => exact ofEntries?_eq_some_iff.2 ⟨_, rfl, stand⟩

theorem hasMembers_toJson (e : Envelope) : e.toJson.HasMembers (format.fields e) :=
  ⟨_, rfl, .refl _⟩

theorem survivesWire_format : format.SurvivesWire := by
  refine Format.survivesWire_of_sent (fun d e => ofJson?_eq_some_iff) ?_ ?_
  · intro e
    exact ⟨hasMembers_toJson e, ofJson?_toJson e⟩
  · intro e
    exact ⟨e.toJson, ofBytes?_toBytes_toJson e, hasMembers_toJson e, ofJson?_toJson e⟩

end Envelope

/-! ### All of them -/

/-- Crates, error entries and error envelopes survive the wire. An entry is written with a detail
    exactly if it has one, and an envelope with the list of its entries, each in this form. -/
theorem records_survive_wire :
    Crate.format.SurvivesWire ∧ ErrorEntry.format.SurvivesWire ∧ Envelope.format.SurvivesWire ∧
      (∀ e : ErrorEntry, e.toJson.member? "detail" = e.detail.map Json.text) ∧
      ∀ e : Envelope,
        e.toJson.member? "errors" = some (.array (e.errors.map ErrorEntry.toJson)) := by
  refine ⟨Crate.survivesWire_format, ErrorEntry.survivesWire_format,
    Envelope.survivesWire_format, ErrorEntry.member?_detail_toJson, ?_⟩
  intro e
  rfl

/-- A short entry, one whose detail is `null` and one without any are read alike. -/
example : Envelope.ofJson? (.array [.array [.array [], .array [.null], .object []]]) =
    some ⟨[⟨none⟩, ⟨none⟩, ⟨none⟩]⟩ := rfl

end RegistryProbe
