import RegistryProbe.DemoRegistry.Basic
import RegistryProbe.Text.Decimal
import RegistryProbe.Uri.Percent
import RegistryProbe.Uri.Reader

/-! # The endpoints of the demonstration registry

  The path of a request is compared with the endpoints as it was sent. The last part of a path may
  be a parameter: it is not empty, holds no slash and is percent-decoded after the comparison. The
  query plays no role.

  The size of a large document is computed from a number that the client chooses. The registry
  breaks down if the size does not fit 64 bits, or is more than a text can have. Below that, memory
  is taken to suffice.
-/

namespace RegistryProbe.DemoRegistry

/-- The endpoints. -/
inductive Route where
  /-- Describes a crate. -/
  | crates (name : String)
  /-- Sends the client on to the description of a crate. -/
  | moved (name : String)
  /-- Answers with a given status. -/
  | status (code : String)
  /-- Answers with an empty list of errors. -/
  | broken
  /-- Answers with a document of a given size. -/
  | large (mib : String)
deriving DecidableEq, Repr

/-- What every endpoint's path begins with. -/
def pathStart : String := "/api/v1/"

/-- What follows a given beginning of a text, if it begins so. -/
def after? (start : String) (t : List Char) : Option (List Char) :=
  if start.toList.isPrefixOf t then some (t.drop start.length) else none

/-- The parameter at the end of a path. -/
def parameter? (t : List Char) : Option String :=
  if t = [] ∨ '/' ∈ t then none else some (String.ofList t)

/-- The endpoint at a path. -/
def route? (path : String) : Option Route := do
  let t ← after? pathStart path.toList
  if t = "broken".toList then return .broken
  let endpoint (start : String) (make : String → Route) : Option Route := do
    return make (← parameter? (← after? start t))
  endpoint "crates/" .crates <|> endpoint "moved/" .moved <|> endpoint "status/" .status
    <|> endpoint "large/" .large

/-- Decodes a parameter and passes it on; bytes that are no UTF-8 are refused. -/
def withParameter (name encoded : String) (answer : String → Except Breakdown Answer) :
    Except Breakdown Answer :=
  match Uri.Percent.text? encoded with
  | some value => answer value
  | none => .ok (.ofText 400 ("Invalid URL: Invalid UTF-8 in `" ++ name ++ "`"))

/-- Decodes a numeric parameter below a bound and passes it on. -/
def withNumber (name type encoded : String) (bound : Nat)
    (answer : Nat → Except Breakdown Answer) : Except Breakdown Answer :=
  withParameter name encoded fun value =>
    match Text.Decimal.readBelow? bound value.toList with
    | some n => answer n
    | none =>
      .ok (.ofText 400 ("Invalid URL: Cannot parse `" ++ value ++ "` to a `" ++ type ++ "`"))

/-- The answer for what the registry does not have. -/
def notFound : Answer :=
  .ofDocument 404
    (.object [("errors", .array [.object [("detail", .text "Not Found")]])])

/-- The description of a crate. -/
def description (c : Crate) : Json :=
  .object [("crate", .object [("max_version", .text c.maxVersion), ("name", .text c.name)])]

/-- Describes a crate of the seed. -/
def crateAnswer (seed : List Crate) (name : String) : Answer :=
  match find? seed name with
  | some c => .ofDocument 200 (description c)
  | none => notFound

/-- A character that a header's value may hold. -/
def isHeaderChar (c : Char) : Bool := (0x20 ≤ c.toNat && c.toNat ≠ 0x7F) || c == '\t'

/-- Sends the client on to the description of a crate. The name goes into the address as it is. -/
def movedAnswer (name : String) : Answer :=
  let location := pathStart ++ "crates/" ++ name
  if location.toList.all isHeaderChar then { status := 307, location := some location }
  else .ofText 500 "failed to parse header value"

/-- Answers with a status between 100 and 999, and with a body that needs a visible rendering. -/
def statusAnswer (code : Nat) : Answer :=
  if 100 ≤ code ∧ code ≤ 999 then .ofText code.toUInt16 "maintenance\r\n\x1b[0m"
  else { status := 400 }

/-- An answer with an empty list of errors. -/
def brokenAnswer : Answer := .ofDocument 404 (.object [("errors", .array [])])

/-- The product of two numbers of 64 bits, which has to have 64 bits as well. -/
def times (a b : Nat) : Except Breakdown Nat :=
  if a * b < UInt64.size then .ok (a * b) else .error .overflow

/-- The most bytes that a text can have: the largest signed number of 64 bits. -/
def maxTextSize : Nat := UInt64.size / 2 - 1

/-- A text that holds nothing but a number of equal characters. -/
def repeated (c : Char) (n : Nat) : Except Breakdown String :=
  if c.utf8Size * n ≤ maxTextSize then .ok (String.ofList (List.replicate n c))
  else .error .capacity

/-- The padding of a large document, by its size in mebibytes. -/
def padding (mib : Nat) : Except Breakdown String := do
  let kib ← times mib 1024
  let length ← times kib 1024
  repeated 'x' length

/-- A large document. -/
def largeDocument (padding : String) : Json :=
  .object [("crate", .object [("name", .text "large"), ("padding", .text padding)])]

/-- Answers with a large document. -/
def largeAnswer (mib : Nat) : Except Breakdown Answer :=
  (padding mib).map fun text => .ofDocument 200 (largeDocument text)

/-- The answer of an endpoint to a request for its document. -/
def Route.answer (seed : List Crate) : Route → Except Breakdown Answer
  | crates name => withParameter "name" name fun value => .ok (crateAnswer seed value)
  | moved name => withParameter "name" name fun value => .ok (movedAnswer value)
  | status code => withNumber "code" "u16" code UInt16.size fun n => .ok (statusAnswer n)
  | broken => .ok brokenAnswer
  | large mib => withNumber "mib" "u64" mib UInt64.size largeAnswer

/-- The answer to a request. -/
def respond (seed : List Crate) (method : String) (uri : Uri) : Except Breakdown Answer :=
  match route? uri.effectivePath with
  | none => .ok { status := 404 }
  | some route =>
    if method = "GET" then route.answer seed
    else if method = "HEAD" then (route.answer seed).map fun answer => { answer with body := [] }
    else .ok { status := 405, allow := some "GET,HEAD" }

end RegistryProbe.DemoRegistry
