import RegistryProbe.Bytes
import RegistryProbe.Json.Token

/-! # Reading documents

  A reader takes the tokens of a text one by one. It keeps the arrays and objects that are still
  open, the innermost first, and what may come next:

  - Arrays and objects nest at most `maxDepth` deep.
  - Of two members of one name the later one stays.
  - A text holds one document and nothing after it.
-/

namespace RegistryProbe.Json

/-- How deep arrays and objects may nest. -/
def maxDepth : Nat := 127

/-- An array or object that is still open and waits for a value. -/
inductive Frame where
  /-- An array with its items so far, the last one first. -/
  | array (done : List Json)
  /-- An object with its members so far and the name whose value comes next. -/
  | object (done : List (String × Json)) (name : String)
deriving Repr

/-- What may come next. -/
inductive Stage where
  /-- A value. -/
  | value
  /-- The first item of an array, or its end. -/
  | firstItem
  /-- The first member of an object, or its end. -/
  | firstMember
  /-- A further member of an object after these. -/
  | member (done : List (String × Json))
  /-- The colon after a name. -/
  | colon (done : List (String × Json)) (name : String)
  /-- Whatever may follow a complete value. -/
  | complete (v : Json)
deriving Repr

/-- The state of a reader between two tokens. -/
structure Reader where
  /-- The open arrays and objects, the innermost first. -/
  frames : List Frame
  /-- What may come next. -/
  stage : Stage
deriving Repr

namespace Reader

/-- Nothing has been read. -/
def start : Reader := ⟨[], .value⟩

/-- Begins the value that a token announces. -/
def beginValue (frames : List Frame) : Token → Option Reader
  | .null => some ⟨frames, .complete .null⟩
  | .bool b => some ⟨frames, .complete (.bool b)⟩
  | .number n => some ⟨frames, .complete (.number n)⟩
  | .string s => some ⟨frames, .complete (.text s)⟩
  | .openArray =>
    if frames.length < maxDepth then some ⟨.array [] :: frames, .firstItem⟩ else none
  | .openObject => if frames.length < maxDepth then some ⟨frames, .firstMember⟩ else none
  | _ => none

/-- Takes a complete value into the innermost open array or object. -/
def closeValue (v : Json) : List Frame → Token → Option Reader
  | .array done :: frames, .comma => some ⟨.array (v :: done) :: frames, .value⟩
  | .array done :: frames, .closeArray =>
    some ⟨frames, .complete (.array (v :: done).reverse)⟩
  | .object done name :: frames, .comma =>
    some ⟨frames, .member (insertMember name v done)⟩
  | .object done name :: frames, .closeObject =>
    some ⟨frames, .complete (.object (insertMember name v done))⟩
  | _, _ => none

/-- Takes one token; `none` where it may not stand. -/
def step (r : Reader) (k : Token) : Option Reader :=
  match r.stage, k with
  | .value, k => beginValue r.frames k
  | .firstItem, .closeArray => some ⟨r.frames.tail, .complete (.array [])⟩
  | .firstItem, k => beginValue r.frames k
  | .firstMember, .closeObject => some ⟨r.frames, .complete (.object [])⟩
  | .firstMember, .string name => some ⟨r.frames, .colon [] name⟩
  | .firstMember, _ => none
  | .member done, .string name => some ⟨r.frames, .colon done name⟩
  | .member _, _ => none
  | .colon done name, .colon => some ⟨.object done name :: r.frames, .value⟩
  | .colon _ _, _ => none
  | .complete v, k => closeValue v r.frames k

/-- Takes tokens in order. -/
def run (r : Reader) (ts : List Token) : Option Reader := ts.foldlM step r

@[simp] theorem run_nil (r : Reader) : r.run [] = some r := rfl

@[simp] theorem run_cons (r : Reader) (k : Token) (ts : List Token) :
    r.run (k :: ts) = (r.step k).bind (·.run ts) := rfl

theorem run_append (r : Reader) (ts us : List Token) :
    r.run (ts ++ us) = (r.run ts).bind (·.run us) := by
  simp [run, List.foldlM_append]

/-- The document that has been read if nothing is open any more. -/
def result? : Reader → Option Json
  | ⟨[], .complete v⟩ => some v
  | _ => none

end Reader

/-- The document that a sequence of tokens forms. -/
def ofTokens? (ts : List Token) : Option Json := (Reader.start.run ts).bind Reader.result?

/-- The document of a text. -/
def ofText? (t : List Char) : Option Json := (Token.lex? t).bind ofTokens?

/-- The document of a text in UTF-8. -/
def ofBytes? (b : Bytes) : Option Json := (Bytes.text? b).bind fun s => ofText? s.toList

end RegistryProbe.Json
