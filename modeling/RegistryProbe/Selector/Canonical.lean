import RegistryProbe.Selector.Basic
import RegistryProbe.Text.Decimal

/-! # Canonical texts of steps

  Every list of steps has one canonical text: names stand in quotes, indices in decimal, and a dot
  precedes every step.
-/

namespace RegistryProbe.Selector

/-- The canonical text of a step. -/
def stepText : Step → List Char
  | .field name => '.' :: '"' :: (name.toList ++ ['"'])
  | .index i => '.' :: '[' :: (Text.Decimal.digits i ++ [']'])

/-- The canonical text of a list of steps. -/
def canonical (steps : List Step) : String :=
  if steps = [] then "." else String.ofList (steps.flatMap stepText)

/-- A step that has a canonical text: the name holds no quote, the index fits a 64-bit word. -/
def IsExpressible : Step → Prop
  | .field name => '"' ∉ name.toList
  | .index i => i < UInt64.size

end RegistryProbe.Selector
