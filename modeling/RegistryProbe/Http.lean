import RegistryProbe.Bytes

/-! # Requests and responses

  Requests and responses are plain data. The round trip between them is the business of whoever
  sends the request.
-/

namespace RegistryProbe

/-- The method of a request. The registry is only read. -/
inductive Method where
  /-- Asks for a document. -/
  | get
deriving DecidableEq, Repr

/-- The name of a method on the wire. -/
def Method.name : Method → String
  | get => "GET"

/-- A request to the registry. -/
structure Request where
  /-- What is asked for. -/
  method : Method
  /-- The full address. -/
  url : String
  /-- Header names and values, in order. -/
  headers : List (String × String)
deriving DecidableEq, Repr

/-! ### Headers -/

/-- The longest name of a header, in bytes. -/
def maxHeaderName : Nat := 65535

/-- Whether a text can be the name of a header: letters, digits and a few marks of ASCII. -/
def isHeaderName (text : String) : Bool :=
  text ≠ "" && text.utf8ByteSize ≤ maxHeaderName
    && text.toList.all fun c => c.isAlphanum || "!#$%&'*+-.^_`|~".toList.contains c

/-- Whether a text can be the value of a header: it has no control character but the tab. -/
def isHeaderValue (text : String) : Bool :=
  text.toList.all fun c => c = '\t' || (0x20 ≤ c.toNat && c.toNat ≠ 0x7F)

/-- Why a header cannot be sent. -/
inductive HeaderFault where
  /-- Its name is none. -/
  | name
  /-- Its value is none. -/
  | value
deriving DecidableEq, Repr

/-- The text of a fault. -/
def HeaderFault.message : HeaderFault → String
  | name => "invalid HTTP header name"
  | value => "failed to parse header value"

/-- The fault of a header, if it has one. -/
def headerFault? (header : String × String) : Option HeaderFault :=
  if !isHeaderName header.1 then some .name
  else if !isHeaderValue header.2 then some .value
  else none

/-- The name that an agent sends along: its own, unless that is empty or the request gives one. -/
def Request.agentName? (r : Request) (own : String) : Option String :=
  if own = "" ∨ r.headers.any (fun h => h.1.toLower = "user-agent") then none else some own

/-! ### Responses -/

/-- A response as it arrived. The body need not be text. -/
structure Response where
  /-- The status code. -/
  status : UInt16
  /-- Header names and values, in order. -/
  headers : List (String × String)
  /-- The whole body. -/
  body : Bytes
  /-- The address that answered, after redirects. -/
  finalUrl : String
deriving DecidableEq, Repr

/-- Whether a response comes from another address than the one asked. -/
def Response.wasRedirected (r : Response) (requested : String) : Bool := r.finalUrl ≠ requested

end RegistryProbe
