import RegistryProbe.Expectation
import RegistryProbe.Http
import RegistryProbe.Json.Reader

/-! # The verdict on a response

  The status decides which expectation is in force: the caller's for 200, the error list for 404.
  Any other status is a failure whatever the body. Under an expectation in force the body has to be
  a document on which it holds; a body that is no document fails in the same way as one of the wrong
  shape.
-/

namespace RegistryProbe

/-- The expectation in force for a status. -/
def Expectation.inForce? (status : UInt16) (callers : Expectation) : Option Expectation :=
  if status = 200 then some callers
  else if status = 404 then some .errorList
  else none

/-- The document of an accepted response; otherwise why the response is not accepted. -/
def verdict (request : Request) (response : Response) (callers : Expectation) :
    Except ProbeError Json :=
  match callers.inForce? response.status with
  | none => .error (.unexpectedStatus response.status request.url response.body)
  | some expectation =>
    match Json.ofBytes? response.body with
    | some d =>
      if expectation.holds d then .ok d
      else .error (.mismatch request.url expectation.text response.body)
    | none => .error (.mismatch request.url expectation.text response.body)

end RegistryProbe
