/-! # The outcome of a probe -/

namespace RegistryProbe

/-- The path of the file that holds the status: the path of the body with `.http` behind it. -/
def statusPath (output : String) : String := output ++ ".http"

/-- What a probe found whose response was accepted. -/
structure Outcome where
  /-- The status, 200 or 404. -/
  status : UInt16
  /-- The address asked for. -/
  url : String
  /-- The address that answered, after redirects. -/
  finalUrl : String
  /-- The file that holds the body. -/
  bodyPath : String
  /-- The file that holds the status. -/
  statusPath : String
  /-- The details of the registry's errors; none for status 200. -/
  errors : List String
deriving DecidableEq, Repr

/-- Whether the registry does not have what was asked for. -/
def Outcome.isNotFound (o : Outcome) : Bool := o.status = 404

end RegistryProbe
