import RegistryProbe.Pattern.Escape

/-! # Reading sets in brackets

  A set in brackets lists characters, ranges, classes and further sets in brackets. `&&`, `--` and
  `~~` combine what stands in front of them with what follows, up to the next of them or the end of
  the set; they are taken from left to right.

  - A caret behind the opening bracket negates the set.
  - Hyphens that come first stand for themselves, and so does a closing bracket.
  - A hyphen in front of the closing bracket stands for itself too.
-/

namespace RegistryProbe.Pattern

/-- A set whose closing bracket has not come yet. -/
structure OpenSet where
  /-- Whether the set is negated. -/
  negated : Bool
  /-- What stands in front of the last operation, if there is one. -/
  left : Option CharSet := none
  /-- What stands after it so far, the last one first. -/
  sets : List CharSet := []
deriving Repr

namespace OpenSet

/-- Adds a set. -/
def add (o : OpenSet) (s : CharSet) : OpenSet := { o with sets := s :: o.sets }

/-- All that stands in the brackets so far. -/
def content (o : OpenSet) : CharSet :=
  let right := CharSet.ofList o.sets.reverse
  match o.left with
  | none => right
  | some left => .combination left right

/-- Begins the right side of an operation. -/
def combine (o : OpenSet) : OpenSet := ⟨o.negated, some o.content, []⟩

/-- The set when its closing bracket has come. -/
def close (o : OpenSet) : CharSet := .bracket o.negated o.content

end OpenSet

/-! ### Pieces of a set -/

/-- What counts of a text, if anything is left. -/
def more? (spaced : Bool) (t : List Char) : Option (List Char) :=
  match skip spaced t with
  | [] => none
  | t => some t

/-- Takes the hyphens in front, of which at least one character must follow. -/
def leadingHyphens? (spaced : Bool) : Nat → OpenSet → List Char → Option (OpenSet × List Char)
  | 0, _, _ => none
  | n + 1, o, t =>
    match t with
    | '-' :: rest => do
      leadingHyphens? spaced n (o.add (.literal ⟨'-', false⟩)) (← more? spaced rest)
    | _ => some (o, t)

/-- Takes what follows an opening bracket and has a meaning of its own there. -/
def opening? (spaced : Bool) (t : List Char) : Option (OpenSet × List Char) := do
  let t ← more? spaced t
  let (negated, t) ← match t with
    | '^' :: rest => (more? spaced rest).map (true, ·)
    | _ => some (false, t)
  let (o, t) ← leadingHyphens? spaced (t.length + 1) ⟨negated, none, []⟩ t
  match o.sets, t with
  | [], ']' :: rest => return (o.add (.literal ⟨']', false⟩), ← more? spaced rest)
  | _, _ => return (o, t)

/-- The names of classes. -/
def classNames : List String :=
  ["alnum", "alpha", "ascii", "blank", "cntrl", "digit", "graph", "lower", "print", "punct",
    "space", "upper", "word", "xdigit"]

/-- Reads the rest of a named class, such as `:alpha:]` or `:^alpha:]`. -/
def namedClass? : List Char → Option (CharSet × List Char)
  | ':' :: t =>
    let (negated, t) := match t with
      | '^' :: rest => (true, rest)
      | _ => (false, t)
    let name := t.takeWhile (· ≠ ':')
    match t.drop name.length with
    | ':' :: ']' :: rest =>
      if classNames.contains (String.ofList name) then some (.named negated, rest) else none
    | _ => none
  | _ => none

/-- Reads a character or an escape. -/
def member? (spaced : Bool) : List Char → Option (Atom × List Char)
  | [] => none
  | '\\' :: rest => escape? spaced rest
  | c :: rest => some (.literal ⟨c, false⟩, rest)

/-- The set that a piece stands for. A place is no set. -/
def Atom.set? : Atom → Option CharSet
  | .literal l => some (.literal l)
  | .shorthand negated => some (.shorthand negated)
  | .anchor _ => none

/-- The range between two pieces, which must be characters in ascending order. -/
def range? : Atom → Atom → Option CharSet
  | .literal first, .literal last =>
    if first.char ≤ last.char then some (.range first last) else none
  | _, _ => none

/-- Reads a character, an escape or a range. -/
def memberOrRange? (spaced : Bool) (t : List Char) : Option (CharSet × List Char) := do
  let (first, t) ← member? spaced t
  let t ← more? spaced t
  match t with
  | '-' :: rest =>
    if peek? spaced rest = some ']' ∨ peek? spaced rest = some '-' then
      return (← Atom.set? first, t)
    else
      let (last, rest) ← member? spaced (← more? spaced rest)
      return (← range? first last, rest)
  | _ => return (← Atom.set? first, t)

/-! ### The whole -/

/-- What reading one piece of a set leads to. -/
inductive SetStep where
  /-- Some brackets are still open, the innermost first. -/
  | inside (openSets : List OpenSet) (rest : List Char)
  /-- The outermost bracket is closed. -/
  | done (s : CharSet) (rest : List Char)

/-- Reads one piece within the brackets that are open. -/
def setStep? (spaced : Bool) (o : OpenSet) (outer : List OpenSet) (t : List Char) :
    Option SetStep :=
  match skip spaced t with
  | [] => none
  | '[' :: rest =>
    match namedClass? rest with
    | some (s, rest) => some (.inside (o.add s :: outer) rest)
    | none => (opening? spaced rest).map fun r => .inside (r.1 :: o :: outer) r.2
  | ']' :: rest =>
    match outer with
    | [] => some (.done o.close rest)
    | p :: outer => some (.inside (p.add o.close :: outer) rest)
  | '&' :: '&' :: rest | '-' :: '-' :: rest | '~' :: '~' :: rest =>
    some (.inside (o.combine :: outer) rest)
  | t => (memberOrRange? spaced t).map fun r => .inside (o.add r.1 :: outer) r.2

/-- Reads on until the outermost bracket is closed, at most so many pieces. -/
def setFrom? (spaced : Bool) : Nat → List OpenSet → List Char → Option (CharSet × List Char)
  | 0, _, _ => none
  | _, [], _ => none
  | n + 1, o :: outer, t =>
    match setStep? spaced o outer t with
    | none => none
    | some (.inside openSets rest) => setFrom? spaced n openSets rest
    | some (.done s rest) => some (s, rest)

/-- Reads what follows the opening bracket of a set. -/
def bracket? (spaced : Bool) (t : List Char) : Option (CharSet × List Char) := do
  let (o, rest) ← opening? spaced t
  setFrom? spaced (t.length + 1) [o] rest

end RegistryProbe.Pattern
