import Mathlib.Data.List.Forall2
import RegistryProbe.Proofs.Envelope.Details
import RegistryProbe.Proofs.Envelope.Wire
import RegistryProbe.Proofs.Probe.Judging

/-! # The readings of an error envelope agree

  Three functions look at the registry's errors: the strict reader, the details, and the expectation
  that there are errors at all. On an object that the strict reader takes, the other two see the
  entries that it has read.

  - `Envelope.ofJson?_object_eq_some_iff` says when an object is read: it lists entries, and each of
    them is read.
  - `Envelope.ReadAlike` says what the details and the expectation make of a document that stands
    for an envelope. It holds of each object that is read, and so of each document that is written.

  It is no law of arrays: the strict reader takes an envelope by its place, and the others do not.
-/

namespace RegistryProbe

/-! ### Reading several entries -/

section Entries

variable {α β γ : Type} {f : α → Option β} {as : List α} {bs : List β}

/-- Several things are read if each of them is. -/
theorem mapM_eq_some_iff_forall₂ :
    as.mapM f = some bs ↔ List.Forall₂ (fun a b => f a = some b) as bs := by
  induction as generalizing bs with
  | nil => simp [eq_comm]
  | cons a as ih =>
    rw [List.mapM_cons, List.forall₂_cons_left_iff]
    simp only [Option.bind_eq_bind, Option.bind_eq_some_iff, Option.pure_def, Option.some.injEq, ih]
    constructor
    · intro h
      obtain ⟨b, hb, bs', hbs', rfl⟩ := h
      exact ⟨b, bs', hb, hbs', rfl⟩
    · intro h
      obtain ⟨b, bs', hb, hbs', rfl⟩ := h
      exact ⟨b, hb, bs', hbs', rfl⟩

/-- What is looked up in each thing that was read does not depend on when it is read. -/
theorem filterMap_of_forall₂ (h : List.Forall₂ (fun a b => f a = some b) as bs)
    (g : β → Option γ) : as.filterMap (fun a => (f a).bind g) = bs.filterMap g := by
  induction h with
  | nil => rfl
  | cons hread _ ih => rw [List.filterMap_cons, List.filterMap_cons, hread, Option.bind_some, ih]

end Entries

namespace Envelope

variable {members : List (String × Json)} {e : Envelope}

/-- An object is read as an envelope if it lists entries and each of them is read. -/
theorem ofJson?_object_eq_some_iff : ofJson? (.object members) = some e ↔
    ∃ entries, Lists (.object members) entries ∧
      List.Forall₂ (fun v entry => ErrorEntry.ofJson? v = some entry) entries e.errors := by
  obtain ⟨errors⟩ := e
  constructor
  · intro h
    obtain ⟨v, hlookup, hentries⟩ := Option.bind_eq_some_iff.1 h
    obtain ⟨items, hitems, hread⟩ := Option.bind_eq_some_iff.1 hentries
    obtain ⟨errors', herrors, heq⟩ := Option.bind_eq_some_iff.1 hread
    cases heq
    have hlists : Lists (.object members) items :=
      lists_iff.2 (by rw [Json.member?, hlookup, Option.bind_some, hitems])
    exact ⟨items, hlists, mapM_eq_some_iff_forall₂.1 herrors⟩
  · intro h
    obtain ⟨entries, ⟨listed⟩, hread⟩ := h
    have herrors := mapM_eq_some_iff_forall₂.2 hread
    simp [ofJson?, listed, ofEntries?, Json.items?, herrors]

/-! ### The agreement -/

/-- What the details and the registry's own expectation make of a document, for the envelope that
    it stands for. -/
structure ReadAlike (d : Json) (e : Envelope) : Prop where
  /-- The details are those of the entries that have one. -/
  details : Envelope.details d = e.errors.filterMap ErrorEntry.detail
  /-- Errors are found exactly if there is an entry, with a detail or without. -/
  holds : Expectation.errorList.holds d = true ↔ e.errors ≠ []

theorem readAlike_of_ofJson? (h : ofJson? (.object members) = some e) :
    ReadAlike (.object members) e := by
  obtain ⟨entries, hlists, hread⟩ := ofJson?_object_eq_some_iff.1 h
  refine ⟨?_, ?_⟩
  · rw [details_of_lists hlists]
    exact filterMap_of_forall₂ hread ErrorEntry.detail
  · have hnil : entries = [] ↔ e.errors = [] := by
      rw [← List.length_eq_zero_iff, ← List.length_eq_zero_iff, hread.length_eq]
    obtain ⟨listed⟩ := hlists
    rw [Expectation.holds_errorList_iff, Ne, ← hnil]
    constructor
    · intro hholds
      obtain ⟨members', entries', hobject, listed', hne⟩ := hholds
      cases hobject
      cases listed.symm.trans listed'
      exact hne
    · intro hne
      exact ⟨members, entries, rfl, listed, hne⟩

/-- On each object that is read as an envelope, the details and the expectation see the entries that
    were read; and each envelope is written as such an object, also in the form of bytes. -/
theorem readings_agree :
    (∀ members e, ofJson? (.object members) = some e → ReadAlike (.object members) e) ∧
      ∀ e : Envelope, ReadAlike e.toJson e ∧
        Json.ofBytes? e.toJson.toBytes = some e.toJson ∧ ofJson? e.toJson = some e := by
  refine ⟨fun members e => readAlike_of_ofJson?, fun e => ?_⟩
  have hread : ofJson? (.object [("errors", .array (e.errors.map ErrorEntry.toJson))]) = some e :=
    ofJson?_toJson e
  exact ⟨readAlike_of_ofJson? hread, ofBytes?_toBytes_toJson e, ofJson?_toJson e⟩

/-- An array of entries is read as an envelope too, and has no details. -/
example : ofJson? (.array [.array [.array [.text "x"]]]) = some ⟨[⟨some "x"⟩]⟩ ∧
    details (.array [.array [.array [.text "x"]]]) = [] := ⟨rfl, rfl⟩

end Envelope

end RegistryProbe
