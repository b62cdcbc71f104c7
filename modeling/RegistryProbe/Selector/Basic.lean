import RegistryProbe.Json.Basic

/-! # Selectors

  A selector names a place in a JSON document, such as `.versions[0].num`. It is a list of steps,
  each going to a member of an object or to an item of an array. The selector `.` has no step and
  names the whole document.

  - `Selector.resolve?` walks the steps and stops where a step does not apply.
  - Resolving a list of steps is resolving its first part and then the rest: `resolve?_append`.
-/

namespace RegistryProbe

/-- One step of a selector. -/
inductive Step where
  /-- To the member of an object with this name. -/
  | field (name : String)
  /-- To the item of an array with this index. -/
  | index (i : Nat)
deriving DecidableEq, Repr

/-- A selector with the text it was read from. -/
structure Selector where
  /-- The text without surrounding blanks. -/
  text : String
  /-- The steps, the outermost first. -/
  steps : List Step
deriving DecidableEq, Repr

namespace Step

/-- The value that a step leads to from a value, if it applies there. -/
def from? (d : Json) : Step → Option Json
  | .field name => d.member? name
  | .index i => d.element? i

end Step

namespace Selector

/-- Walks steps through a document; `none` when a step is missing or meets another kind of
    value. -/
def resolve? (steps : List Step) (d : Json) : Option Json :=
  steps.foldlM (fun v s => s.from? v) d

@[simp] theorem resolve?_nil (d : Json) : resolve? [] d = some d := rfl

@[simp] theorem resolve?_cons (s : Step) (steps : List Step) (d : Json) :
    resolve? (s :: steps) d = (s.from? d).bind (resolve? steps) := rfl

theorem resolve?_append (p q : List Step) (d : Json) :
    resolve? (p ++ q) d = (resolve? p d).bind (resolve? q) := by
  induction p generalizing d with
  | nil => rfl
  | cons s p ih =>
    simp only [List.cons_append, resolve?_cons]
    cases s.from? d with
    | none => rfl
    | some v => exact ih v

end Selector

end RegistryProbe
