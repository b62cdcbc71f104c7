import RegistryProbe.DemoRegistry.Router

/-! # Where the demonstration registry looks for a crate

  A request for a crate names it in its path, in a percent-encoded spelling.

  - `Route.path` gives the path of every endpoint. A path leads to an endpoint if it is this one and
    the parameter is one part without slashes, and only then: `route?_eq_some_iff`.
  - Every spelling of a name is decoded to this name: `text?_of_spells`.
  - Of several crates of one name the registry finds the last: `find?_eq_some_iff`.
-/

namespace RegistryProbe

/-! ### Spellings -/

namespace Uri.Percent

/-- A percent-encoded spelling of some bytes is decoded to these bytes. -/
theorem decode_of_spells {bytes : Bytes} {t : List Char} (h : Spells bytes t) :
    decode t = bytes := by
  induction h with
  | nil => rw [decode]
  | hex digits _ ih => rw [decode, digits, ih]
  | plain ne _ ih =>
    rw [decode, ih]
    -- a percent sign is spelled by its digits
    rintro a b rest heq
    exact absurd heq ne

/-- A spelling of a name is decoded to the name. -/
theorem text?_of_spells {name spelling : String} (h : Spells (Bytes.ofText name) spelling.toList) :
    text? spelling = some name := by
  rw [text?, decode_of_spells h, Bytes.text?_ofText]

theorem ne_empty_of_spells {name spelling : String}
    (h : Spells (Bytes.ofText name) spelling.toList) (hname : name ≠ "") : spelling ≠ "" := by
  intro hempty
  subst hempty
  have hnil : Bytes.ofText "" = Bytes.ofText name := decode_of_spells h
  exact hname (Bytes.ofText_injective hnil).symm

/-- A text without percent signs is a spelling of itself. -/
theorem spells_self {t : List Char} (h : '%' ∉ t) : Spells (Bytes.ofText (String.ofList t)) t := by
  induction t with
  | nil => exact .nil
  | cons c t ih =>
    rw [List.mem_cons, not_or] at h
    rw [Bytes.ofText_ofList_cons]
    exact .plain (Ne.symm h.1) (ih h.2)

theorem Spells.append {bytes more : Bytes} {t u : List Char} (h : Spells bytes t)
    (h' : Spells more u) : Spells (bytes ++ more) (t ++ u) := by
  induction h with
  | nil => exact h'
  | hex digits _ ih => exact .hex digits ih
  | plain ne _ ih =>
    rw [List.append_assoc]
    exact .plain ne ih

end Uri.Percent

namespace DemoRegistry

/-! ### Routes -/

/-- The path of an endpoint. -/
def Route.path : Route → String
  | crates name => "/api/v1/crates/" ++ name
  | moved name => "/api/v1/moved/" ++ name
  | status code => "/api/v1/status/" ++ code
  | broken => "/api/v1/broken"
  | large mib => "/api/v1/large/" ++ mib

@[simp] theorem Route.path_crates (name : String) :
    (crates name).path = "/api/v1/crates/" ++ name := rfl

@[simp] theorem Route.path_moved (name : String) :
    (moved name).path = "/api/v1/moved/" ++ name := rfl

@[simp] theorem Route.path_status (code : String) :
    (status code).path = "/api/v1/status/" ++ code := rfl

@[simp] theorem Route.path_broken : broken.path = "/api/v1/broken" := rfl

@[simp] theorem Route.path_large (mib : String) :
    (large mib).path = "/api/v1/large/" ++ mib := rfl

/-- The parameter at the end of an endpoint's path. -/
def Route.parameter? : Route → Option String
  | crates name => some name
  | moved name => some name
  | status code => some code
  | broken => none
  | large mib => some mib

variable {seed : List Crate} {name path : String} {c : Crate}

theorem after?_eq_some_iff {start : String} {t rest : List Char} :
    after? start t = some rest ↔ t = start.toList ++ rest := by
  unfold after?
  rw [← String.length_toList]
  constructor
  · intro h
    split at h
    next hstart =>
      obtain ⟨more, rfl⟩ := List.isPrefixOf_iff_prefix.1 hstart
      rw [List.drop_left] at h
      cases h
      rfl
    next => cases h
  · rintro rfl
    rw [if_pos (List.isPrefixOf_iff_prefix.2 (List.prefix_append ..)), List.drop_left]

theorem parameter?_eq_some_iff {t : List Char} :
    parameter? t = some name ↔ t = name.toList ∧ name ≠ "" ∧ '/' ∉ name.toList := by
  unfold parameter?
  constructor
  · intro h
    split at h
    next => cases h
    next hnot =>
      cases h
      have hnot := not_or.1 hnot
      rw [String.toList_ofList]
      exact ⟨rfl, by simpa using hnot.1, hnot.2⟩
  · rintro ⟨rfl, hne, hslash⟩
    have hempty : name.toList ≠ [] := by simpa using hne
    rw [if_neg (not_or.2 ⟨hempty, hslash⟩), String.ofList_toList]

/-- The parameter of a path that begins in some way. -/
theorem bind_parameter?_eq_some_iff {start : String} {t : List Char} :
    (after? start t).bind parameter? = some name ↔
      t = start.toList ++ name.toList ∧ name ≠ "" ∧ '/' ∉ name.toList := by
  rw [Option.bind_eq_some_iff]
  constructor
  · rintro ⟨rest, hrest, hname⟩
    obtain ⟨rfl, hrest'⟩ := parameter?_eq_some_iff.1 hname
    exact ⟨after?_eq_some_iff.1 hrest, hrest'⟩
  · rintro ⟨ht, hname⟩
    exact ⟨_, after?_eq_some_iff.2 ht, parameter?_eq_some_iff.2 ⟨rfl, hname⟩⟩

/-- The endpoints with a parameter, in the order in which they are tried. -/
theorem route?_eq (path : String) :
    route? path = (after? pathStart path.toList).bind fun t =>
      if t = "broken".toList then some .broken
      else
        (((after? "crates/" t).bind parameter?).map Route.crates).or
          ((((after? "moved/" t).bind parameter?).map Route.moved).or
            ((((after? "status/" t).bind parameter?).map Route.status).or
              (((after? "large/" t).bind parameter?).map Route.large))) := by
  unfold route?
  simp only [bind, pure, Option.orElse_eq_orElse, Option.orElse_eq_or, Option.map_eq_bind,
    Option.bind_assoc]
  rfl

/-- A path leads to an endpoint if it is the endpoint's own path and the parameter is one part of
    it. -/
theorem route?_eq_some_iff {route : Route} :
    route? path = some route ↔
      path = route.path ∧ ∀ p, route.parameter? = some p → p ≠ "" ∧ '/' ∉ p.toList := by
  rw [route?_eq, Option.bind_eq_some_iff]
  constructor
  · intro h
    obtain ⟨t, ht, hroute⟩ := h
    have hpath : path = pathStart ++ String.ofList t := by
      apply String.toList_injective
      rw [after?_eq_some_iff.1 ht, String.toList_append, String.toList_ofList]
    split at hroute
    next hbroken =>
      cases hroute
      refine ⟨?_, fun p hp => by cases hp⟩
      rw [hpath, hbroken]
      rfl
    next =>
      -- the endpoint is one of those with a parameter
      simp only [Option.or_eq_some_iff, Option.map_eq_some_iff] at hroute
      rcases hroute with ⟨p, hp, rfl⟩ | ⟨-, ⟨p, hp, rfl⟩ | ⟨-, ⟨p, hp, rfl⟩ | ⟨-, p, hp, rfl⟩⟩⟩
      all_goals
        obtain ⟨rfl, hproper⟩ := bind_parameter?_eq_some_iff.1 hp
        refine ⟨?_, ?_⟩
        · apply String.toList_injective
          rw [hpath]
          simp [pathStart]
        · intro q hq
          cases hq
          exact hproper
  · intro h
    obtain ⟨rfl, hproper⟩ := h
    have hafter (start p : String) :
        after? pathStart ("/api/v1/".toList ++ (start.toList ++ p.toList)) =
          some (start.toList ++ p.toList) :=
      after?_eq_some_iff.2 rfl
    cases route with
    | crates p =>
      refine ⟨"crates/".toList ++ p.toList, ?_, ?_⟩
      · simpa using hafter "crates/" p
      · rw [if_neg (by simp), bind_parameter?_eq_some_iff.2 ⟨rfl, hproper p rfl⟩]
        rfl
    | moved p =>
      refine ⟨"moved/".toList ++ p.toList, ?_, ?_⟩
      · simpa using hafter "moved/" p
      · rw [if_neg (by simp), bind_parameter?_eq_some_iff.2 ⟨rfl, hproper p rfl⟩]
        rfl
    | status p =>
      refine ⟨"status/".toList ++ p.toList, ?_, ?_⟩
      · simpa using hafter "status/" p
      · rw [if_neg (by simp), bind_parameter?_eq_some_iff.2 ⟨rfl, hproper p rfl⟩]
        rfl
    | broken => exact ⟨"broken".toList, after?_eq_some_iff.2 rfl, if_pos rfl⟩
    | large p =>
      refine ⟨"large/".toList ++ p.toList, ?_, ?_⟩
      · simpa using hafter "large/" p
      · rw [if_neg (by simp), bind_parameter?_eq_some_iff.2 ⟨rfl, hproper p rfl⟩]
        rfl

/-- The path of an endpoint leads to it if the parameter is one part of a path. -/
theorem route?_of_parameter {route : Route} {p : String} (hparameter : route.parameter? = some p)
    (hpath : path = route.path) (hne : p ≠ "") (hslash : '/' ∉ p.toList) :
    route? path = some route := by
  rw [route?_eq_some_iff]
  refine ⟨hpath, ?_⟩
  intro q hq
  cases hparameter.symm.trans hq
  exact ⟨hne, hslash⟩

/-- A path leads to the description of a crate if one part follows the beginning of such paths. -/
theorem route?_eq_crates_iff :
    route? path = some (.crates name) ↔
      path = "/api/v1/crates/" ++ name ∧ name ≠ "" ∧ '/' ∉ name.toList := by
  rw [route?_eq_some_iff]
  simp [Route.parameter?]

/-! ### The crate of a name -/

/-- The last crate of a name in a list. -/
def IsLast (seed : List Crate) (name : String) (c : Crate) : Prop :=
  ∃ earlier later, seed = earlier ++ c :: later ∧ c.name = name ∧ ∀ c' ∈ later, c'.name ≠ name

theorem find?_eq_some_iff : find? seed name = some c ↔ IsLast seed name c := by
  unfold find? IsLast
  rw [List.find?_eq_some_iff_append]
  constructor
  · rintro ⟨hname, later, earlier, hseed, hlater⟩
    refine ⟨earlier.reverse, later.reverse, ?_, by simpa using hname, by simpa using hlater⟩
    have := congrArg List.reverse hseed
    simpa using this
  · rintro ⟨earlier, later, rfl, hname, hlater⟩
    exact ⟨by simpa using hname, later.reverse, earlier.reverse, by simp, by simpa using hlater⟩

theorem find?_eq_none_iff : find? seed name = none ↔ ∀ c ∈ seed, c.name ≠ name := by
  simp [find?]

end DemoRegistry

end RegistryProbe
