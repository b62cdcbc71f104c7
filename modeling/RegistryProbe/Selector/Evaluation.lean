import RegistryProbe.Selector.Basic

/-! # Evaluation that goes on through `null`

  A query language may read a selector more generously than `resolve?` does: a missing member or
  item counts as `null`, and every step from `null` leads to `null` again. Only a step from another
  kind of value is a fault.
-/

namespace RegistryProbe

namespace Selector

/-- A step met a value of another kind than it applies to. -/
inductive Misfit where
  /-- A step to a member met something else than an object or `null`. -/
  | notAnObject
  /-- A step to an item met something else than an array or `null`. -/
  | notAnArray
deriving DecidableEq, Repr

/-- One step of the evaluation. -/
def evaluateStep (d : Json) : Step → Except Misfit Json
  | .field name =>
    match d with
    | .object members => .ok ((members.lookup name).getD .null)
    | .null => .ok .null
    | _ => .error .notAnObject
  | .index i =>
    match d with
    | .array items => .ok ((items[i]?).getD .null)
    | .null => .ok .null
    | _ => .error .notAnArray

/-- Evaluates steps from left to right. -/
def evaluate : List Step → Json → Except Misfit Json
  | [], d => .ok d
  | s :: steps, d => (evaluateStep d s).bind (evaluate steps)

end Selector

end RegistryProbe
