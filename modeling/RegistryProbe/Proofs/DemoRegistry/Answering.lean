import Mathlib.Algebra.Group.Nat.Defs
import RegistryProbe.Proofs.DemoRegistry.Routing
import RegistryProbe.Proofs.Results

/-! # Which requests the demonstration registry answers

  The registry pads a document to a number of mebibytes that the client gives in the path. It takes
  any number of 64 bits, and breaks down if it cannot make a padding of this size.

  - `padding_cases` gives the padding: the size is computed below 2^44 mebibytes, and a text has
    room for it below 2^43.
  - `AsksForLarge` says which requests are for large documents, and `respond_eq_error_iff` that the
    registry breaks down over no others. So `answered_iff` says which requests it answers.
-/

namespace RegistryProbe.DemoRegistry

variable {seed : List Crate} {uri : Uri} {mib : Nat} {cause : Breakdown} {answer : Answer}

/-! ### Parameters -/

/-- A parameter is passed on if it is decoded, and refused otherwise. -/
theorem withParameter_cases (name encoded : String)
    (next : String → Except Breakdown Answer) :
    (∃ value, Uri.Percent.text? encoded = some value ∧
      withParameter name encoded next = next value) ∨
    ∃ refusal, withParameter name encoded next = .ok refusal ∧ refusal.status = 400 := by
  unfold withParameter
  cases Uri.Percent.text? encoded with
  | none => exact .inr ⟨_, rfl, rfl⟩
  | some value => exact .inl ⟨value, rfl, rfl⟩

theorem withNumber_cases (name type encoded : String) (bound : Nat)
    (next : Nat → Except Breakdown Answer) :
    (∃ n, withNumber name type encoded bound next = next n) ∨
    ∃ refusal, withNumber name type encoded bound next = .ok refusal ∧ refusal.status = 400 := by
  unfold withNumber
  rcases withParameter_cases name encoded _ with ⟨value, -, h⟩ | h
  · rw [h]
    split
    next n _ => exact .inl ⟨n, rfl⟩
    next => exact .inr ⟨_, rfl, rfl⟩
  · exact .inr h

theorem withParameter_of_text? {encoded value : String}
    (h : Uri.Percent.text? encoded = some value) (name : String)
    (next : String → Except Breakdown Answer) : withParameter name encoded next = next value := by
  rw [withParameter, h]

/-- A parameter breaks nothing down before it is passed on. -/
theorem withParameter_eq_error_iff {name encoded : String}
    {next : String → Except Breakdown Answer} :
    withParameter name encoded next = .error cause ↔
      ∃ value, Uri.Percent.text? encoded = some value ∧ next value = .error cause := by
  unfold withParameter
  cases Uri.Percent.text? encoded <;> simp

theorem withNumber_eq_error_iff {name type encoded : String} {bound : Nat}
    {next : Nat → Except Breakdown Answer} :
    withNumber name type encoded bound next = .error cause ↔
      ∃ value n, Uri.Percent.text? encoded = some value ∧
        Text.Decimal.readBelow? bound value.toList = some n ∧ next n = .error cause := by
  unfold withNumber
  rw [withParameter_eq_error_iff]
  refine exists_congr fun value => ?_
  cases Text.Decimal.readBelow? bound value.toList <;> simp

/-! ### Requests for documents -/

theorem respond_get (seed : List Crate) (uri : Uri) :
    respond seed "GET" uri = match route? uri.effectivePath with
      | none => .ok { status := 404 }
      | some route => route.answer seed := by
  unfold respond
  cases route? uri.effectivePath with
  | none => rfl
  | some route => exact if_pos rfl

theorem respond_of_route {route : Route} (h : route? uri.effectivePath = some route) :
    respond seed "GET" uri = route.answer seed := by
  rw [respond_get, h]

/-! ### The padding -/

theorem times_of_lt {a b : Nat} (h : a * b < UInt64.size) : times a b = .ok (a * b) := if_pos h

theorem times_of_le {a b : Nat} (h : UInt64.size ≤ a * b) : times a b = .error .overflow :=
  if_neg (Nat.not_lt.2 h)

theorem repeated_of_le {n : Nat} (h : n ≤ maxTextSize) :
    repeated 'x' n = .ok (String.ofList (List.replicate n 'x')) :=
  if_pos ((Nat.one_mul n).symm ▸ h)

theorem repeated_of_lt {n : Nat} (h : maxTextSize < n) : repeated 'x' n = .error .capacity :=
  if_neg (Nat.not_le.2 ((Nat.one_mul n).symm ▸ h))

/-- Below 2^44 mebibytes the size of the padding is computed exactly. -/
theorem padding_of_lt (h : mib < 2 ^ 44) : padding mib = repeated 'x' (mib * 2 ^ 20) := by
  have hkib : times mib 1024 = .ok (mib * 1024) := times_of_lt (by rw [UInt64.size]; omega)
  have hlength : times (mib * 1024) 1024 = .ok (mib * 1024 * 1024) :=
    times_of_lt (by rw [UInt64.size]; omega)
  have hsize : mib * 1024 * 1024 = mib * 2 ^ 20 := by omega
  rw [padding, hkib, ok_bind, hlength, ok_bind, hsize]

/-- From there on one of the two products is too large. -/
theorem padding_of_le (h : 2 ^ 44 ≤ mib) : padding mib = .error .overflow := by
  rw [padding]
  by_cases hkib : mib * 1024 < UInt64.size
  · have hlength : times (mib * 1024) 1024 = .error .overflow :=
      times_of_le (by rw [UInt64.size]; omega)
    rw [times_of_lt hkib, ok_bind, hlength, error_bind]
  · rw [times_of_le (Nat.not_lt.1 hkib), error_bind]

/-- The padding has the size that was asked for, if there is one: the size has to fit 64 bits, and
    then it has to fit a text. -/
theorem padding_cases (mib : Nat) :
    (mib < 2 ^ 43 ∧
      padding mib = .ok (String.ofList (List.replicate (mib * 2 ^ 20) 'x'))) ∨
    (2 ^ 43 ≤ mib ∧ mib < 2 ^ 44 ∧ padding mib = .error .capacity) ∨
    (2 ^ 44 ≤ mib ∧ padding mib = .error .overflow) := by
  have hmax : maxTextSize = 2 ^ 63 - 1 := rfl
  by_cases hfits : mib < 2 ^ 44
  · have hpadding := padding_of_lt hfits
    by_cases hroom : mib < 2 ^ 43
    · rw [repeated_of_le (by omega)] at hpadding
      exact .inl ⟨hroom, hpadding⟩
    · rw [repeated_of_lt (by omega)] at hpadding
      exact .inr (.inl ⟨Nat.not_lt.1 hroom, hfits, hpadding⟩)
  · have hlarge := Nat.not_lt.1 hfits
    exact .inr (.inr ⟨hlarge, padding_of_le hlarge⟩)

theorem padding_eq_ok_iff {text : String} : padding mib = .ok text ↔
    mib < 2 ^ 43 ∧ String.ofList (List.replicate (mib * 2 ^ 20) 'x') = text := by
  rcases padding_cases mib with ⟨hroom, h⟩ | ⟨hroom, -, h⟩ | ⟨hlarge, h⟩
  · rw [h, Except.ok.injEq, and_iff_right hroom]
  · rw [h]
    exact iff_of_false nofun fun h' => by omega
  · rw [h]
    exact iff_of_false nofun fun h' => by omega

theorem padding_eq_capacity_iff :
    padding mib = .error .capacity ↔ 2 ^ 43 ≤ mib ∧ mib < 2 ^ 44 := by
  rcases padding_cases mib with ⟨hroom, h⟩ | ⟨hroom, hfits, h⟩ | ⟨hlarge, h⟩
  · rw [h]
    exact iff_of_false nofun fun h' => by omega
  · exact iff_of_true h ⟨hroom, hfits⟩
  · rw [h]
    exact iff_of_false nofun fun h' => by omega

theorem padding_eq_overflow_iff : padding mib = .error .overflow ↔ 2 ^ 44 ≤ mib := by
  rcases padding_cases mib with ⟨hroom, h⟩ | ⟨-, hfits, h⟩ | ⟨hlarge, h⟩
  · rw [h]
    exact iff_of_false nofun fun h' => by omega
  · rw [h]
    exact iff_of_false nofun fun h' => by omega
  · exact iff_of_true h hlarge

/-! ### Requests for large documents -/

/-- A path asks for a large document: its last part stands for an unsigned numeral of 64 bits. -/
structure AsksForLarge (uri : Uri) (mib : Nat) : Prop where
  numeral : ∃ spelling numeral, uri.effectivePath = "/api/v1/large/" ++ spelling ∧
    spelling ≠ "" ∧ '/' ∉ spelling.toList ∧ Uri.Percent.text? spelling = some numeral ∧
    Text.Decimal.read? numeral.toList = some mib
  lt_size : mib < UInt64.size

theorem respond_large (h : AsksForLarge uri mib) (seed : List Crate) :
    respond seed "GET" uri = largeAnswer mib := by
  obtain ⟨spelling, numeral, hpath, hne, hslash, htext, hnumeral⟩ := h.numeral
  have hroute : route? uri.effectivePath = some (.large spelling) :=
    route?_of_parameter rfl hpath hne hslash
  have hbelow : Text.Decimal.readBelow? UInt64.size numeral.toList = some mib := by
    rw [Text.Decimal.readBelow?_eq, hnumeral]
    simpa using h.lt_size
  rw [respond_of_route hroute, Route.answer, withNumber, withParameter_of_text? htext, hbelow]

theorem largeAnswer_eq_error_iff : largeAnswer mib = .error cause ↔ padding mib = .error cause :=
  error_map_iff

/-- The registry breaks down over nothing else than the padding of a large document. -/
theorem respond_eq_error_iff : respond seed "GET" uri = .error cause ↔
    ∃ mib, AsksForLarge uri mib ∧ padding mib = .error cause := by
  constructor
  · intro h
    rw [respond_get] at h
    cases hroute : route? uri.effectivePath with
    | none =>
      rw [hroute] at h
      cases h
    | some route =>
      obtain ⟨hpath, hproper⟩ := route?_eq_some_iff.1 hroute
      rw [hroute] at h
      dsimp only at h
      cases route with
      | crates name =>
        obtain ⟨_, _, hnever⟩ := withParameter_eq_error_iff.1 h
        cases hnever
      | moved name =>
        obtain ⟨_, _, hnever⟩ := withParameter_eq_error_iff.1 h
        cases hnever
      | status code =>
        obtain ⟨_, _, _, _, hnever⟩ := withNumber_eq_error_iff.1 h
        cases hnever
      | broken => cases h
      | large spelling =>
        obtain ⟨numeral, mib, htext, hbelow, hanswer⟩ := withNumber_eq_error_iff.1 h
        obtain ⟨hne, hslash⟩ := hproper spelling rfl
        rw [Text.Decimal.readBelow?_eq, Option.filter_eq_some_iff] at hbelow
        exact ⟨mib, ⟨⟨spelling, numeral, hpath, hne, hslash, htext, hbelow.1⟩,
          of_decide_eq_true hbelow.2⟩, largeAnswer_eq_error_iff.1 hanswer⟩
  · rintro ⟨mib, hasks, hpadding⟩
    rw [respond_large hasks, largeAnswer_eq_error_iff.2 hpadding]

/-- The registry answers every request but those for documents that are too large. -/
theorem answered_iff : (∃ answer, respond seed "GET" uri = .ok answer) ↔
    ∀ mib, AsksForLarge uri mib → mib < 2 ^ 43 := by
  constructor
  · rintro ⟨answer, hanswer⟩ mib hasks
    obtain ⟨text, htext, -⟩ := ok_map_iff.1 ((respond_large hasks seed).symm.trans hanswer)
    exact (padding_eq_ok_iff.1 htext).1
  · intro hsmall
    cases h : respond seed "GET" uri with
    | ok answer => exact ⟨answer, rfl⟩
    | error cause =>
      obtain ⟨mib, hasks, hbreaks⟩ := respond_eq_error_iff.1 h
      cases (padding_eq_ok_iff.2 ⟨hsmall mib hasks, rfl⟩).symm.trans hbreaks

end RegistryProbe.DemoRegistry
