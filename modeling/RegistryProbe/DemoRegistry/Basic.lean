import RegistryProbe.Crate
import RegistryProbe.Json.Writer

/-! # A registry for demonstrations

  A small registry that answers from a fixed list of crates. It also has endpoints for the unusual
  answers that a client has to cope with: redirects, any status, an empty list of errors and large
  documents.
-/

namespace RegistryProbe.DemoRegistry

/-- An answer of the registry. -/
structure Answer where
  /-- The status code. -/
  status : UInt16
  /-- The type of the body. -/
  contentType : Option String := none
  /-- Where to look instead. -/
  location : Option String := none
  /-- The methods that are allowed. -/
  allow : Option String := none
  /-- The body. -/
  body : Bytes := []
deriving DecidableEq, Repr

/-- An answer that carries a document. -/
def Answer.ofDocument (status : UInt16) (d : Json) : Answer :=
  { status := status, contentType := some "application/json", body := d.toBytes }

/-- An answer that carries text. -/
def Answer.ofText (status : UInt16) (text : String) : Answer :=
  { status := status, contentType := some "text/plain; charset=utf-8", body := Bytes.ofText text }

/-- Why the registry breaks down over a request instead of answering it. -/
inductive Breakdown where
  /-- A product needs more than 64 bits. -/
  | overflow
  /-- A text would be longer than any text can be. -/
  | capacity
deriving DecidableEq, Repr

/-- The crates that a registry knows if nothing else is said. -/
def defaultSeed : List Crate := [⟨"serde", "1.0.0"⟩, ⟨"tokio", "1.0.0"⟩]

/-- The crate of a name; of several the last one counts. -/
def find? (seed : List Crate) (name : String) : Option Crate :=
  seed.reverse.find? (·.name = name)

end RegistryProbe.DemoRegistry
