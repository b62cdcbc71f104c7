import RegistryProbe.Json.Basic

/-! # The registry's error envelope

  The registry tells its errors as `{"errors": [{"detail": "Not Found"}]}`. There are two readings:

  - `Envelope.ofJson?` is strict. Every entry has to be well formed. A record may be given as an
    object, whose other members do not count, or as the array of its fields; an array may stop short
    of a field that has a default.
  - `Envelope.details` is lenient. It skips the entries that are not well formed.
-/

namespace RegistryProbe

/-- One entry of an error envelope. -/
structure ErrorEntry where
  /-- What went wrong, if the registry says so. -/
  detail : Option String
deriving DecidableEq, Repr

/-- The registry's error envelope. -/
structure Envelope where
  /-- The entries in order. -/
  errors : List ErrorEntry
deriving DecidableEq, Repr

namespace ErrorEntry

/-- An optional text: `null` stands for none. -/
def ofDetail? : Json → Option ErrorEntry
  | .null => some ⟨none⟩
  | .text s => some ⟨some s⟩
  | _ => none

/-- Reads an entry. -/
def ofJson? : Json → Option ErrorEntry
  | .object members =>
    match members.lookup "detail" with
    | none => some ⟨none⟩
    | some v => ofDetail? v
  | .array [] => some ⟨none⟩
  | .array [v] => ofDetail? v
  | _ => none

/-- Writes an entry; a missing detail is left out. -/
def toJson (e : ErrorEntry) : Json :=
  match e.detail with
  | none => .object []
  | some s => .object [("detail", .text s)]

@[simp] theorem ofJson?_toJson (e : ErrorEntry) : ofJson? e.toJson = some e := by
  obtain ⟨_ | s⟩ := e <;> rfl

end ErrorEntry

namespace Envelope

/-- Reads the list of entries. -/
def ofEntries? (v : Json) : Option Envelope := do
  let items ← v.items?
  let errors ← items.mapM ErrorEntry.ofJson?
  return ⟨errors⟩

/-- Reads an envelope. -/
def ofJson? : Json → Option Envelope
  | .object members => (members.lookup "errors").bind ofEntries?
  | .array [v] => ofEntries? v
  | _ => none

/-- Writes an envelope. -/
def toJson (e : Envelope) : Json :=
  .object [("errors", .array (e.errors.map ErrorEntry.toJson))]

@[simp] theorem ofJson?_toJson (e : Envelope) : ofJson? e.toJson = some e := by
  have h : ∀ es : List ErrorEntry,
      (es.map ErrorEntry.toJson).mapM ErrorEntry.ofJson? = some es := by
    intro es
    induction es with
    | nil => rfl
    | cons e es ih => simp [List.mapM_cons, ih]
  simp [toJson, ofJson?, ofEntries?, Json.items?, h]

/-- The details of a document's error entries in order, without the entries that have none or are
    not well formed; none at all for a document without such a list. -/
def details (d : Json) : List String :=
  let entries := ((d.member? "errors").bind Json.items?).getD []
  entries.filterMap fun v => (ErrorEntry.ofJson? v).bind ErrorEntry.detail

end Envelope

end RegistryProbe
