import RegistryProbe.Bytes
import RegistryProbe.Json.Token

/-! # Writing documents

  A document is written without blanks, its members in the order in which they stand. What is
  written is the text of the document's tokens, one after the other.
-/

namespace RegistryProbe.Json

/-- The tokens of the values after the first, each with a comma in front. -/
def separated (pieces : List (List Token)) : List Token :=
  match pieces with
  | [] => []
  | p :: ps => p ++ ps.flatMap (Token.comma :: ·)

mutual

/-- The tokens of a document. -/
def tokens : Json → List Token
  | .null => [.null]
  | .bool b => [.bool b]
  | .number n => [.number n]
  | .text s => [.string s]
  | .array items => .openArray :: (separated (itemTokens items) ++ [.closeArray])
  | .object members => .openObject :: (separated (memberTokens members) ++ [.closeObject])

/-- The tokens of each of several items. -/
def itemTokens : List Json → List (List Token)
  | [] => []
  | v :: vs => tokens v :: itemTokens vs

/-- The tokens of each of several members. -/
def memberTokens : List (String × Json) → List (List Token)
  | [] => []
  | (name, v) :: ms => (.string name :: .colon :: tokens v) :: memberTokens ms

end

/-- The text of a document. -/
def render (d : Json) : String := String.ofList (d.tokens.flatMap Token.text)

/-- The text of a document in UTF-8. -/
def toBytes (d : Json) : Bytes := Bytes.ofText d.render

end RegistryProbe.Json
