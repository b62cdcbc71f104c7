import RegistryProbe.Http

/-! # The root of a registry API

  Endpoints are joined to the root of the API with exactly one slash, however many slashes the
  caller gives at the joint.
-/

namespace RegistryProbe

/-- The root of an API, to which endpoints are appended. -/
structure ApiRoot where
  /-- The address, with one slash at its end. -/
  base : String
deriving DecidableEq, Repr

namespace ApiRoot

/-- A text without the slashes in front. -/
def withoutLeading (t : List Char) : List Char := t.dropWhile (· = '/')

/-- A text without the slashes at its end. -/
def withoutTrailing (t : List Char) : List Char := (withoutLeading t.reverse).reverse

/-- The root at an address. -/
def ofUrl (url : String) : ApiRoot := ⟨String.ofList (withoutTrailing url.toList ++ ['/'])⟩

/-- The address of an endpoint. -/
def url (root : ApiRoot) (endpoint : String) : String :=
  root.base ++ String.ofList (withoutLeading endpoint.toList)

/-- The request for an endpoint. -/
def request (root : ApiRoot) (endpoint : String) : Request :=
  ⟨.get, root.url endpoint, [("accept", "application/json")]⟩

end ApiRoot

end RegistryProbe
