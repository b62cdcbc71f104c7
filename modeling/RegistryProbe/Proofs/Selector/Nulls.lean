import RegistryProbe.Expectation
import RegistryProbe.Selector.Evaluation

/-! # Two ways through a document

  `resolve?` stops where a step does not lead on. `evaluate` goes on from there through `null`, and
  stops only at a step that does not fit. Side by side they are always in one of three situations:

  - Both stand at the same value.
  - `resolve?` has stopped, `evaluate` stands at `null` and will stay there.
  - Both have stopped.

  `Alongside` says this, `Alongside.step` that one step keeps it, `alongside_evaluate` that whole
  walks do. In neither of the last two situations is there anything that counts as true, so the two
  ways give an expectation the same meaning: `holds_iff_evaluates_true`.
-/

namespace RegistryProbe

/-- The values that count as true are all but two. -/
theorem Json.isTruthy_iff {v : Json} : v.isTruthy = true ↔ v ≠ .null ∧ v ≠ .bool false := by
  cases v <;> simp [Json.isTruthy]

namespace Selector

/-- Where `resolve?` and `evaluate` stand after the same steps from the same document. -/
inductive Alongside : Option Json → Except Misfit Json → Prop where
  /-- Both stand at one value. -/
  | same (v : Json) : Alongside (some v) (.ok v)
  /-- One has stopped, the other stands at `null`. -/
  | null : Alongside none (.ok .null)
  /-- Both have stopped. -/
  | misfit (m : Misfit) : Alongside none (.error m)

/-! ### One step -/

theorem alongside_field (d : Json) (name : String) :
    Alongside (d.member? name) (evaluateStep d (.field name)) := by
  cases d with
  | null => exact .null
  | object members =>
    show Alongside (members.lookup name) (.ok ((members.lookup name).getD .null))
    -- a member that is missing stops the one and is `null` for the other
    cases members.lookup name with
    | none => exact .null
    | some v => exact .same v
  | bool b => exact .misfit _
  | number n => exact .misfit _
  | text s => exact .misfit _
  | array items => exact .misfit _

theorem alongside_index (d : Json) (i : Nat) :
    Alongside (d.element? i) (evaluateStep d (.index i)) := by
  cases d with
  | null => exact .null
  | array items =>
    show Alongside items[i]? (.ok (items[i]?.getD .null))
    cases items[i]? with
    | none => exact .null
    | some v => exact .same v
  | bool b => exact .misfit _
  | number n => exact .misfit _
  | text s => exact .misfit _
  | object members => exact .misfit _

theorem evaluateStep_null (s : Step) : evaluateStep .null s = .ok .null := by
  cases s <;> rfl

/-- One step keeps the two alongside, wherever they stand. -/
theorem Alongside.step {found : Option Json} {evaluated : Except Misfit Json}
    (h : Alongside found evaluated) (s : Step) :
    Alongside (found.bind s.from?) (evaluated.bind fun v => evaluateStep v s) := by
  cases h with
  | same v =>
    cases s with
    | field name => exact alongside_field v name
    | index i => exact alongside_index v i
  | null =>
    -- `null` leads to `null`, whatever the step
    show Alongside none (evaluateStep .null s)
    rw [evaluateStep_null]
    exact .null
  | misfit m => exact .misfit m

/-! ### Whole walks -/

/-- A walk keeps the two alongside, wherever they start. -/
theorem Alongside.walk {found : Option Json} {evaluated : Except Misfit Json}
    (h : Alongside found evaluated) (steps : List Step) :
    Alongside (found.bind (resolve? steps)) (evaluated.bind (evaluate steps)) := by
  induction steps generalizing found evaluated with
  | nil => cases h <;> constructor
  | cons s steps ih =>
    -- the first step belongs to where the two stand, the others follow from there
    have hfirst : (found.bind s.from?).bind (resolve? steps) =
        found.bind (resolve? (s :: steps)) := by
      cases found <;> rfl
    have hfirst' : (evaluated.bind fun v => evaluateStep v s).bind (evaluate steps) =
        evaluated.bind (evaluate (s :: steps)) := by
      cases evaluated <;> rfl
    rw [← hfirst, ← hfirst']
    exact ih (h.step s)

theorem alongside_evaluate (steps : List Step) (d : Json) :
    Alongside (resolve? steps d) (evaluate steps d) :=
  (Alongside.same d).walk steps

/-! ### What counts as true -/

/-- Where the two stand alongside, they find something true or neither does. -/
theorem Alongside.any_isTruthy_iff {found : Option Json} {evaluated : Except Misfit Json}
    (h : Alongside found evaluated) :
    found.any Json.isTruthy = true ↔ ∃ v, evaluated = .ok v ∧ v ≠ .null ∧ v ≠ .bool false := by
  cases h with
  | same v =>
    rw [Option.any_some, Json.isTruthy_iff]
    constructor
    · intro htrue
      exact ⟨v, rfl, htrue⟩
    · intro h
      obtain ⟨_, ⟨⟩, htrue⟩ := h
      exact htrue
  | null =>
    constructor
    · intro h
      cases h
    · intro h
      obtain ⟨_, ⟨⟩, hnull, -⟩ := h
      exact absurd rfl hnull
  | misfit m => simp

end Selector

/-- A caller's expectation holds on a document if evaluation gives a value there, and the value is
    neither `null` nor `false`. -/
theorem holds_iff_evaluates_true (text : String) (steps : List Step) (d : Json) :
    (Expectation.at ⟨text, steps⟩).holds d = true ↔
      ∃ v, Selector.evaluate steps d = .ok v ∧ v ≠ .null ∧ v ≠ .bool false :=
  (Selector.alongside_evaluate steps d).any_isTruthy_iff

/-- From `null` only evaluation goes on, and neither way finds anything true there. -/
example :
    let steps : List Step := [.field "a", .field "b"]
    let d : Json := .object [("a", .null)]
    Selector.resolve? steps d = none ∧ Selector.evaluate steps d = .ok .null ∧
      (Expectation.at ⟨".a.b", steps⟩).holds d = false :=
  ⟨rfl, rfl, rfl⟩

end RegistryProbe
