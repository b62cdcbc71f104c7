import RegistryProbe.Proofs.DemoRegistry.Agreement
import RegistryProbe.Proofs.Uri.Paths

/-! # The size of large documents

  A client asks the demonstration registry for a large document, and judges the answer under the
  expectation `.crate.padding`.

  - A large document is read as it was written, and its padding counts as true even if it is empty:
    `ofBytes?_largeDocument`, `verdict_largeDocument`.
  - `Padded` collects what becomes of the request. The client gets the size that it asked for below
    2^43 mebibytes, and no answer from there on.
-/

namespace RegistryProbe.DemoRegistry

variable {seed : List Crate} {uri : Uri} {mib : Nat}

/-! ### The documents -/

/-- The expectation `.crate.padding`. -/
def cratePadding : Expectation := .at ⟨".crate.padding", [.field "crate", .field "padding"]⟩

theorem read_cratePadding : Expectation.read ".crate.padding" = .ok cratePadding := by
  have htext : ".crate.padding" = String.ofList (Selector.wordsText ["crate", "padding"]) := by
    decide
  rw [cratePadding, htext, Expectation.read,
    Selector.read_wordsText ["crate", "padding"] (by decide) (by decide)]
  rfl

/-- The padding that is found in a document. -/
def padding? (d : Json) : Option String :=
  (Selector.resolve? [.field "crate", .field "padding"] d).bind Json.text?

theorem padding?_largeDocument (text : String) : padding? (largeDocument text) = some text := rfl

/-- A large document is read as it was written. -/
theorem ofBytes?_largeDocument (text : String) :
    Json.ofBytes? (largeDocument text).toBytes = some (largeDocument text) := by
  have hordered : (largeDocument text).ordered = largeDocument text := by
    simp only [largeDocument, Json.ordered, Json.orderedMembers]
    rw [Json.ofMembers_pair (by decide) (by decide)]
    rfl
  have hdepth : (largeDocument text).depth ≤ Json.maxDepth := by
    simp [largeDocument, Json.depth, Json.membersDepth, Json.maxDepth]
  rw [Json.ofBytes?_toBytes rfl hdepth, hordered]

/-- A client accepts a large document, also one with an empty padding. -/
theorem verdict_largeDocument (request : Request) (headers : List (String × String))
    (finalUrl text : String) :
    verdict request ((Answer.ofDocument 200 (largeDocument text)).received headers finalUrl)
      cratePadding = .ok (largeDocument text) := by
  have hread : Json.ofBytes?
      ((Answer.ofDocument 200 (largeDocument text)).received headers finalUrl).body =
        some (largeDocument text) := by
    rw [body_received_ofDocument, ofBytes?_largeDocument]
  exact verdict_eq_ok_iff.2 (.found rfl hread rfl)

/-! ### The theorem -/

/-- What becomes of a request for a large document. -/
structure Padded (outcome : Except Breakdown Answer) (mib : Nat) : Prop where
  /-- Below 2^43 mebibytes the answer is a document. A client that expects a padding accepts it,
      and finds one of the size that it asked for. -/
  padded : mib < 2 ^ 43 → ∃ answer, outcome = .ok answer ∧ answer.status = 200 ∧
    ∀ request headers finalUrl, ∃ d text,
      verdict request (answer.received headers finalUrl) cratePadding = .ok d ∧
        padding? d = some text ∧ text.length = mib * 2 ^ 20
  /-- From there on a text has no room for the padding. -/
  capacity_iff : outcome = .error .capacity ↔ 2 ^ 43 ≤ mib ∧ mib < 2 ^ 44
  /-- From 2^44 mebibytes on the size of the padding does not even fit 64 bits. -/
  overflow_iff : outcome = .error .overflow ↔ 2 ^ 44 ≤ mib

/-- A request for a large document is answered by a document of this size, which a client accepts,
    if the size can be computed and a text can have it. Otherwise the registry breaks down. -/
theorem large_documents_are_padded (seed : List Crate) (uri : Uri) (mib : Nat)
    (asks : AsksForLarge uri mib) :
    Expectation.read ".crate.padding" = .ok cratePadding ∧
      Padded (respond seed "GET" uri) mib := by
  rw [respond_large asks]
  refine ⟨read_cratePadding, fun hroom => ?_, ?_, ?_⟩
  · refine ⟨_, ok_map_iff.2 ⟨_, padding_eq_ok_iff.2 ⟨hroom, rfl⟩, rfl⟩, rfl, ?_⟩
    intro request headers finalUrl
    refine ⟨_, _, verdict_largeDocument request headers finalUrl _, padding?_largeDocument _, ?_⟩
    rw [String.length_ofList, List.length_replicate]
  · exact largeAnswer_eq_error_iff.trans padding_eq_capacity_iff
  · exact largeAnswer_eq_error_iff.trans padding_eq_overflow_iff

/-- A size with a sign, which is escaped, and with leading zeros. -/
theorem large_documents_are_padded_at_seven :
    AsksForLarge (Uri.ofPath "/api/v1/large/%2B007") 7 ∧
      Expectation.read ".crate.padding" = .ok cratePadding ∧
      Padded (respond defaultSeed "GET" (Uri.ofPath "/api/v1/large/%2B007")) 7 := by
  have hbytes : Bytes.ofText "+007" = 0x2B :: Bytes.ofText (String.ofList "007".toList) := by
    decide
  have hspells : Uri.Percent.Spells (Bytes.ofText "+007") "%2B007".toList := by
    rw [hbytes]
    exact .hex (by decide) (Uri.Percent.spells_self (by decide))
  have hasks : AsksForLarge (Uri.ofPath "/api/v1/large/%2B007") 7 :=
    ⟨⟨"%2B007", "+007", by decide, by decide, by decide, Uri.Percent.text?_of_spells hspells,
      by decide⟩, by decide⟩
  exact ⟨hasks, large_documents_are_padded defaultSeed _ 7 hasks⟩

/-- The size of a document of 2^44 mebibytes does not fit 64 bits. -/
theorem padding_length_overflows :
    ¬ ∀ (seed : List Crate) (uri : Uri) (mib : Nat), AsksForLarge uri mib →
      respond seed "GET" uri ≠ .error .overflow := by
  intro h
  have hspells : Uri.Percent.Spells (Bytes.ofText (String.ofList "17592186044416".toList))
      "17592186044416".toList := Uri.Percent.spells_self (by decide)
  rw [String.ofList_toList] at hspells
  have hasks : AsksForLarge (Uri.ofPath "/api/v1/large/17592186044416") (2 ^ 44) :=
    ⟨⟨"17592186044416", "17592186044416", by decide, by decide, by decide,
      Uri.Percent.text?_of_spells hspells, by decide⟩, by decide⟩
  apply h defaultSeed _ _ hasks
  rw [respond_large hasks]
  exact largeAnswer_eq_error_iff.2 (padding_eq_overflow_iff.2 (Nat.le_refl _))

end RegistryProbe.DemoRegistry
