import RegistryProbe.Pattern.Bracket
import RegistryProbe.Text.Letter

/-! # Reading patterns

  A pattern is read from left to right. The reader keeps the groups that are still open, the
  innermost first, the choices and the sequence of the current group, and whether blanks count.

  - `(` begins a group. `?` behind it announces a name, `?<name>` or `?P<name>`, which no other
    group has, or flags, `?i-s:`, which hold within the group. With a closing parenthesis in place
    of the colon the flags hold from there on.
  - `?`, `*` and `+` repeat what stands in front of them; a question mark may follow.
  - Nothing looks ahead or behind.
  - A pattern nests at most `maxDepth` deep.

  The patterns read here hold no closing brace. So a number of repetitions in braces never comes to
  an end, and an opening brace outside brackets is refused.
-/

namespace RegistryProbe.Pattern

/-- How deep a pattern may nest. -/
def maxDepth : Nat := 250

/-- A group as far as it has been read. -/
structure Level where
  /-- The choices before the current one, the last one first. -/
  choices : List Pattern := []
  /-- The parts of the current choice, the last one first. -/
  parts : List Pattern := []
deriving Repr

namespace Level

/-- Adds a part. -/
def add (l : Level) (p : Pattern) : Level := { l with parts := p :: l.parts }

/-- The current choice. -/
def last (l : Level) : Pattern := Pattern.ofList l.parts.reverse

/-- Begins a further choice. -/
def next (l : Level) : Level := ⟨l.last :: l.choices, []⟩

/-- The pattern of the whole group. -/
def close (l : Level) : Pattern :=
  if l.choices.isEmpty then l.last else .choice (l.last :: l.choices).reverse

/-- Repeats the last part, if there is one that can be repeated. -/
def repeat? (l : Level) : Option Level :=
  match l.parts with
  | [] | .change _ :: _ => none
  | p :: parts => some { l with parts := .repeated p :: parts }

end Level

/-- A group that has not been closed yet. -/
structure OpenGroup where
  /-- What it stands in. -/
  outer : Level
  /-- The flags that it changes. -/
  change : FlagChange
  /-- Whether blanks do not count around it. -/
  spaced : Bool
deriving Repr

/-- The state of a reader. -/
structure Reader where
  /-- The current group. -/
  level : Level := {}
  /-- The groups around it, the innermost first. -/
  groups : List OpenGroup := []
  /-- Whether blanks do not count. -/
  spaced : Bool := false
  /-- The names of groups. -/
  names : List (List Char) := []
deriving Repr

/-! ### Groups -/

/-- Whether a text can be the name of a group. -/
def isGroupName : List Char → Bool
  | [] => false
  | c :: rest =>
    (c = '_' || Text.isLetter c)
      && rest.all fun c => ['_', '.', '[', ']'].contains c || Text.isLetterOrNumeral c

/-- Reads the letters of flags; those behind a hyphen are cleared. -/
def flags? (negating : Bool) (c : FlagChange) : List Char → Option FlagChange
  | [] => some c
  | '-' :: rest => if negating ∨ rest = [] then none else flags? true c rest
  | l :: rest => do
    let f ← Flag.ofChar? l
    if f ∈ c.on ∨ f ∈ c.off then none
    else if negating then flags? true { c with off := f :: c.off } rest
    else flags? false { c with on := f :: c.on } rest

namespace Reader

/-- Adds a pattern to the current group. -/
def add (r : Reader) (p : Pattern) : Reader := { r with level := r.level.add p }

/-- Begins a group. -/
def enter (r : Reader) (c : FlagChange) : Reader :=
  { r with
    level := {}
    groups := ⟨r.level, c, r.spaced⟩ :: r.groups
    spaced := c.apply .spaced r.spaced }

/-- Begins a group with a name. -/
def enterNamed? (r : Reader) (t : List Char) : Option (Reader × List Char) :=
  let name := t.takeWhile (· ≠ '>')
  match t.drop name.length with
  | [] => none
  | _ :: rest =>
    if isGroupName name ∧ name ∉ r.names then
      some ({ r with names := name :: r.names }.enter {}, rest)
    else none

/-- Changes flags, in a group of their own or from here on. -/
def change? (r : Reader) (t : List Char) : Option (Reader × List Char) :=
  let letters := t.takeWhile fun c => c ≠ ':' && c ≠ ')'
  match flags? false {} letters, t.drop letters.length with
  | some c, ':' :: rest => some (r.enter c, rest)
  | some c, ')' :: rest =>
    if letters = [] then none
    else some ({ r with spaced := c.apply .spaced r.spaced }.add (.change c), rest)
  | _, _ => none

/-- Takes what follows an opening parenthesis. -/
def enterGroup? (r : Reader) (t : List Char) : Option (Reader × List Char) :=
  match skip r.spaced t with
  | '?' :: '=' :: _ | '?' :: '!' :: _ | '?' :: '<' :: '=' :: _ | '?' :: '<' :: '!' :: _ => none
  | '?' :: 'P' :: '<' :: rest | '?' :: '<' :: rest => r.enterNamed? rest
  | '?' :: rest => r.change? rest
  | t => some (r.enter {}, t)

/-- Ends a group. -/
def leave? (r : Reader) : Option Reader :=
  match r.groups with
  | [] => none
  | g :: groups =>
    some { r with
      level := g.outer.add (.group g.change r.level.close)
      groups := groups
      spaced := g.spaced }

/-! ### The whole -/

/-- Takes the first piece of a text that counts. -/
def step? (r : Reader) : List Char → Option (Reader × List Char)
  | [] => none
  | '(' :: rest => r.enterGroup? rest
  | ')' :: rest => r.leave?.map (·, rest)
  | '|' :: rest => some ({ r with level := r.level.next }, rest)
  | '[' :: rest => (bracket? r.spaced rest).map fun s => (r.add (.oneOf s.1), s.2)
  | '?' :: rest | '*' :: rest | '+' :: rest => do
    let level ← r.level.repeat?
    let rest := match rest with
      | '?' :: rest => rest
      | _ => rest
    return ({ r with level := level }, rest)
  | '\x7b' :: _ => none
  | '\\' :: rest => (escape? r.spaced rest).map fun a => (r.add (.atom a.1), a.2)
  | '.' :: rest => some (r.add .dot, rest)
  | '^' :: rest | '$' :: rest => some (r.add (.atom (.anchor .edge)), rest)
  | c :: rest => some (r.add (.atom (.literal ⟨c, false⟩)), rest)

/-- Takes a text piece by piece, at most so many pieces. -/
def run? : Nat → Reader → List Char → Option Reader
  | n, r, t =>
    match n, skip r.spaced t with
    | _, [] => some r
    | 0, _ => none
    | n + 1, t =>
      match r.step? t with
      | none => none
      | some (r, rest) => run? n r rest

/-- The pattern that has been read, if no group is open any more. -/
def result? (r : Reader) : Option Pattern :=
  if r.groups.isEmpty ∧ r.level.close.depth ≤ maxDepth then some r.level.close else none

end Reader

/-- Reads a pattern. -/
def read? (t : List Char) : Option Pattern := (Reader.run? t.length {} t).bind Reader.result?

end RegistryProbe.Pattern
