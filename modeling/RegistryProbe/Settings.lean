/-! # Settings of a probe -/

namespace RegistryProbe

/-- The API root of the public registry. -/
def publicRegistry : String := "https://crates.io/api/v1/"

/-- The version that the program gives as its own. -/
def programVersion : String := "0.1.0"

/-- How a probe talks to the registry. -/
structure Settings where
  /-- The address of the API root. -/
  baseUrl : String := publicRegistry
  /-- The value of the `User-Agent` header. -/
  userAgent : String := "registry-check/" ++ programVersion
  /-- The longest time for one request in seconds, if it is limited. -/
  timeout : Option Nat := none
deriving DecidableEq, Repr

end RegistryProbe
