import RegistryProbe.ProbeError
import RegistryProbe.Selector.Reader

/-! # Expectations

  An expectation is a condition on the document that a response carries. A caller gives a selector:
  the document has to have a value at that place, and the value must count as true. For a 404 the
  registry's own envelope of errors is expected instead.
-/

namespace RegistryProbe

/-- A condition on a document. -/
inductive Expectation where
  /-- A value stands at the place, and it is neither `null` nor `false`. -/
  | at (selector : Selector)
  /-- The document has a member `errors`, an array with at least one item. -/
  | errorList
deriving DecidableEq, Repr

namespace Expectation

/-- Whether an expectation holds on a document. -/
def holds (d : Json) : Expectation → Bool
  | .at selector => (Selector.resolve? selector.steps d).any Json.isTruthy
  | .errorList => ((d.member? "errors").bind Json.items?).any (!·.isEmpty)

/-- The text that names an expectation in a message. -/
def text : Expectation → String
  | .at selector => selector.text
  | .errorList => ".errors | length > 0"

/-- Reads the selector of a caller's expectation. -/
def read (expression : String) : Except ProbeError Expectation :=
  match Selector.read expression with
  | .ok selector => .ok (.at selector)
  | .error fault => .error (.invalidExpectation expression fault.message)

end Expectation

end RegistryProbe
