import RegistryProbe.Expectation

/-! # Beginnings of selectors

  A selector goes through a document from the outside to the inside. So what a longer selector finds
  says something about every beginning of it:

  - A step leads on only from an array or an object: `Step.isContainer_of_from?`.
  - A selector that goes on behind a place leads nowhere unless an array or an object stands there:
    `Selector.isContainer_of_resolve?`. Both count as true, so the place meets an expectation.
  - A selector leads nowhere exactly if one of its steps finds nothing, and it then breaks off in
    the same way however it goes on: `Selector.resolve?_eq_none_iff`, `Selector.BreaksOff.append`.
-/

namespace RegistryProbe

variable {d v : Json} {step : Step} {steps p s : List Step}

/-! ### One step -/

/-- The values that hold other values. -/
inductive Json.IsContainer : Json → Prop where
  /-- An array, even an empty one. -/
  | array (items : List Json) : IsContainer (.array items)
  /-- An object, even an empty one. -/
  | object (members : List (String × Json)) : IsContainer (.object members)

theorem Json.IsContainer.isTruthy (h : d.IsContainer) : d.isTruthy = true := by
  cases h with
  | array items => rfl
  | object members => rfl

theorem Json.lookup_eq_none_iff_absent {name : String} {members : List (String × Json)} :
    members.lookup name = none ↔ ∀ v, (name, v) ∉ members := by
  rw [List.lookup_eq_none_iff]
  constructor
  · intro h v hmem
    have := h _ hmem
    simp at this
  · intro h m hmem
    have hne : name ≠ m.1 := by
      intro heq
      apply h m.2
      rw [heq]
      exact hmem
    simpa using hne

namespace Step

/-- A step finds nothing at a value: what it names is missing there, or the value is of another
    kind than the step goes through. -/
inductive FindsNothing : Step → Json → Prop where
  /-- No member of the object has the name. -/
  | missingMember {name : String} {members : List (String × Json)}
      (absent : ∀ v, (name, v) ∉ members) : FindsNothing (.field name) (.object members)
  /-- The array has not so many items. -/
  | missingItem {i : Nat} {items : List Json} (beyond : items.length ≤ i) :
      FindsNothing (.index i) (.array items)
  /-- The value has no members. -/
  | notAnObject {name : String} {d : Json} (other : ∀ members, d ≠ .object members) :
      FindsNothing (.field name) d
  /-- The value has no items. -/
  | notAnArray {i : Nat} {d : Json} (other : ∀ items, d ≠ .array items) :
      FindsNothing (.index i) d

/-- A step leads on only from an array or an object. -/
theorem isContainer_of_from? (h : step.from? d = some v) : d.IsContainer := by
  match step, d with
  | .field _, .object members => exact .object members
  | .index _, .array items => exact .array items

theorem from?_eq_none_iff : step.from? d = none ↔ step.FindsNothing d := by
  constructor
  · intro h
    match step, d with
    | .field _, .object members => exact .missingMember (Json.lookup_eq_none_iff_absent.1 h)
    | .index _, .array items => exact .missingItem (List.getElem?_eq_none_iff.1 h)
    | .field _, .null | .field _, .bool _ | .field _, .number _ | .field _, .text _
    | .field _, .array _ => exact .notAnObject (by simp)
    | .index _, .null | .index _, .bool _ | .index _, .number _ | .index _, .text _
    | .index _, .object _ => exact .notAnArray (by simp)
  · intro h
    cases h with
    | missingMember absent => exact Json.lookup_eq_none_iff_absent.2 absent
    | missingItem beyond => exact List.getElem?_eq_none_iff.2 beyond
    | notAnObject other =>
      match d with
      | .object members => exact absurd rfl (other members)
      | .null | .bool _ | .number _ | .text _ | .array _ => rfl
    | notAnArray other =>
      match d with
      | .array items => exact absurd rfl (other items)
      | .null | .bool _ | .number _ | .text _ | .object _ => rfl

end Step

/-! ### Whole selectors -/

namespace Selector

/-- A selector with a step at least leads nowhere but from an array or an object. -/
theorem isContainer_of_resolve? (hs : s ≠ []) (h : resolve? s d = some v) : d.IsContainer := by
  obtain ⟨step, rest, rfl⟩ := List.exists_cons_of_ne_nil hs
  rw [resolve?_cons] at h
  obtain ⟨next, hnext, -⟩ := Option.bind_eq_some_iff.1 h
  exact Step.isContainer_of_from? hnext

/-- A selector breaks off at the step that finds nothing where the steps before it lead. -/
def BreaksOff (steps : List Step) (d : Json) : Prop :=
  ∃ before step behind v, steps = before ++ step :: behind ∧ resolve? before d = some v ∧
    step.FindsNothing v

theorem BreaksOff.append (h : BreaksOff p d) (s : List Step) : BreaksOff (p ++ s) d := by
  obtain ⟨before, step, behind, v, rfl, hbefore, hnothing⟩ := h
  refine ⟨before, step, behind ++ s, v, ?_, hbefore, hnothing⟩
  rw [List.append_assoc, List.cons_append]

/-- A selector leads nowhere exactly if it breaks off. -/
theorem resolve?_eq_none_iff : resolve? steps d = none ↔ BreaksOff steps d := by
  constructor
  · intro h
    -- induction on the steps, from wherever the walk stands
    induction steps generalizing d with
    | nil =>
      rw [resolve?_nil] at h
      exact absurd h (Option.some_ne_none d)
    | cons step rest ih =>
      rw [resolve?_cons] at h
      match hnext : step.from? d with
      | none => exact ⟨[], step, rest, d, rfl, rfl, Step.from?_eq_none_iff.1 hnext⟩
      | some next =>
        rw [hnext, Option.bind_some] at h
        obtain ⟨before, last, behind, v, rfl, hbefore, hnothing⟩ := ih h
        refine ⟨step :: before, last, behind, v, rfl, ?_, hnothing⟩
        rw [resolve?_cons, hnext, Option.bind_some]
        exact hbefore
  · intro h
    obtain ⟨before, step, behind, v, rfl, hbefore, hnothing⟩ := h
    have hstep : step.from? v = none := Step.from?_eq_none_iff.2 hnothing
    rw [resolve?_append, hbefore, Option.bind_some, resolve?_cons, hstep, Option.bind_none]

end Selector

/-! ### Expectations -/

theorem holds_at_iff {sel : Selector} :
    (Expectation.at sel).holds d = true ↔
      ∃ v, Selector.resolve? sel.steps d = some v ∧ v.isTruthy = true := by
  show (Selector.resolve? sel.steps d).any Json.isTruthy = true ↔ _
  match Selector.resolve? sel.steps d with
  | none => simp
  | some v => simp

/-- Where a longer selector leads on, an array or an object stands at the end of the beginning. -/
theorem exists_container_of_append (hs : s ≠ []) (h : Selector.resolve? (p ++ s) d = some v) :
    ∃ c, Selector.resolve? p d = some c ∧ c.IsContainer := by
  rw [Selector.resolve?_append] at h
  obtain ⟨c, hc, hv⟩ := Option.bind_eq_some_iff.1 h
  exact ⟨c, hc, Selector.isContainer_of_resolve? hs hv⟩

theorem holds_of_container {c : Json} (h : Selector.resolve? p d = some c) (hc : c.IsContainer)
    (text : String) : (Expectation.at ⟨text, p⟩).holds d = true :=
  holds_at_iff.2 ⟨c, h, hc.isTruthy⟩

/-- What is expected of a place is met at every place on the way to it, whatever the texts that the
    two selectors were read from. -/
theorem holds_of_append {text : String} (text' : String)
    (h : (Expectation.at ⟨text, p ++ s⟩).holds d = true) :
    (Expectation.at ⟨text', p⟩).holds d = true := by
  by_cases hs : s = []
  · rw [hs, List.append_nil] at h
    exact h
  · obtain ⟨v, hv, -⟩ := holds_at_iff.1 h
    obtain ⟨c, hc, hcontainer⟩ := exists_container_of_append hs hv
    exact holds_of_container hc hcontainer text'

theorem not_holds_of_breaksOff {sel : Selector} (h : Selector.BreaksOff sel.steps d) :
    (Expectation.at sel).holds d = false := by
  have hnone : Selector.resolve? sel.steps d = none := Selector.resolve?_eq_none_iff.2 h
  show (Selector.resolve? sel.steps d).any Json.isTruthy = false
  rw [hnone, Option.any_none]

/-- Let a selector have the steps `p` and then the steps `s`. If it leads anywhere, and `s` is not
    empty, then an array or an object stands where `p` leads, so that an expectation of `p` holds.
    Where its own expectation holds, so does that of `p`. Where `p` breaks off at a step that finds
    nothing, the whole selector does so too, and its expectation fails. -/
theorem expectations_hold_of_beginnings (d : Json) (p s : List Step) :
    (s ≠ [] → ∀ v, Selector.resolve? (p ++ s) d = some v →
      (∃ c, Selector.resolve? p d = some c ∧ c.IsContainer) ∧
        ∀ text, (Expectation.at ⟨text, p⟩).holds d = true) ∧
    (∀ text text', (Expectation.at ⟨text, p ++ s⟩).holds d = true →
      (Expectation.at ⟨text', p⟩).holds d = true) ∧
    (Selector.BreaksOff p d → Selector.BreaksOff (p ++ s) d ∧
      ∀ text, (Expectation.at ⟨text, p ++ s⟩).holds d = false) := by
  refine ⟨?_, ?_, ?_⟩
  · intro hs v hv
    obtain ⟨c, hc, hcontainer⟩ := exists_container_of_append hs hv
    exact ⟨⟨c, hc, hcontainer⟩, holds_of_container hc hcontainer⟩
  · intro text text' h
    exact holds_of_append text' h
  · intro h
    have hwhole : Selector.BreaksOff (p ++ s) d := h.append s
    exact ⟨hwhole, fun _ => not_holds_of_breaksOff hwhole⟩

/-- The value at the end may be false: what stands before it is an array and counts as true. A
    further step finds nothing there. -/
theorem expectations_hold_of_beginnings_at_false :
    let d : Json := .object [("flags", .array [.bool false])]
    let p : List Step := [.field "flags"]
    let s : List Step := [.index 0]
    s ≠ [] ∧ Selector.resolve? (p ++ s) d = some (.bool false) ∧
      (Expectation.at ⟨".flags", p⟩).holds d = true ∧
      (Expectation.at ⟨".flags[0]", p ++ s⟩).holds d = false ∧
      Selector.BreaksOff (p ++ s ++ [.field "name"]) d := by
  intro d p s
  have hs : s ≠ [] := List.cons_ne_nil _ _
  have hv : Selector.resolve? (p ++ s) d = some (.bool false) := rfl
  have hp := (expectations_hold_of_beginnings d p s).1 hs _ hv
  refine ⟨hs, hv, hp.2 _, rfl, p ++ s, .field "name", [], .bool false, rfl, hv, ?_⟩
  exact .notAnObject (by simp)

end RegistryProbe
