/-! # Patterns

  A pattern stands for the texts that it matches. It is built from literals, from sets of characters
  in brackets and from a few shorthands, by sequence, choice, repetition and grouping. A group may
  change how the pattern inside it is to be taken, and so may a change that stands by itself, for
  all that follows it in its group.

  `depth` measures how deep a pattern nests. Leaves do not count.
-/

namespace RegistryProbe

/-! ### Leaves -/

/-- One character in a pattern. -/
structure Literal where
  /-- The character. -/
  char : Char
  /-- Whether it is given by two hexadecimal digits and so may stand for a mere byte. -/
  isByte : Bool := false
deriving DecidableEq, Repr

/-- What a pattern can ask of a place between two characters. -/
inductive Anchor where
  /-- To be at an end of the text or of a line. -/
  | edge
  /-- To be, or not to be, at an end of a word. -/
  | word
deriving DecidableEq, Repr

/-- A piece of a pattern that holds no other pattern. -/
inductive Atom where
  /-- A character. -/
  | literal (l : Literal)
  /-- The digits, the blanks or the characters of words, or all characters but those. -/
  | shorthand (negated : Bool)
  /-- A place. -/
  | anchor (a : Anchor)
deriving DecidableEq, Repr

/-! ### Sets of characters -/

/-- A set of characters. -/
inductive CharSet where
  /-- No character. -/
  | empty
  /-- A character. -/
  | literal (l : Literal)
  /-- The characters from one to another. -/
  | range (first last : Literal)
  /-- A class of ASCII characters that has a name, or all characters but those. -/
  | named (negated : Bool)
  /-- A class that has a shorthand, or all characters but those. -/
  | shorthand (negated : Bool)
  /-- A set in brackets, or all characters but those. -/
  | bracket (negated : Bool) (content : CharSet)
  /-- The characters of at least two sets. -/
  | union (sets : List CharSet)
  /-- What an operation makes of two sets. -/
  | combination (left right : CharSet)
deriving Repr

namespace CharSet

/-- The union of any number of sets. -/
def ofList : List CharSet → CharSet
  | [] => .empty
  | [s] => s
  | sets => .union sets

mutual

/-- How deep a set nests. -/
def depth : CharSet → Nat
  | .bracket _ content => content.depth + 1
  | .union sets => depthOfList sets + 1
  | .combination left right => max left.depth right.depth + 1
  | _ => 0

/-- How deep the deepest of some sets nests. -/
def depthOfList : List CharSet → Nat
  | [] => 0
  | s :: rest => max s.depth (depthOfList rest)

end

end CharSet

/-! ### Changes of mode -/

/-- A way in which a pattern may be taken. -/
inductive Flag where
  /-- Letters stand for themselves in either case. -/
  | ignoreCase
  /-- Lines have edges of their own. -/
  | multiLine
  /-- The dot matches a line feed too. -/
  | dotAll
  /-- Repetitions are short unless marked, and not the other way round. -/
  | swapGreed
  /-- Characters are those of Unicode and not those of ASCII. -/
  | unicode
  /-- A carriage return ends a line too. -/
  | returns
  /-- Blanks and comments do not count. -/
  | spaced
deriving DecidableEq, Repr

/-- The flag of a letter. -/
def Flag.ofChar? : Char → Option Flag
  | 'i' => some .ignoreCase
  | 'm' => some .multiLine
  | 's' => some .dotAll
  | 'U' => some .swapGreed
  | 'u' => some .unicode
  | 'R' => some .returns
  | 'x' => some .spaced
  | _ => none

/-- A change of some flags. No flag stands on both sides. -/
structure FlagChange where
  /-- The flags that it sets. -/
  on : List Flag := []
  /-- The flags that it clears. -/
  off : List Flag := []
deriving DecidableEq, Repr

/-- What a flag is after a change. -/
def FlagChange.apply (c : FlagChange) (f : Flag) (before : Bool) : Bool :=
  if f ∈ c.on then true else if f ∈ c.off then false else before

/-! ### Patterns -/

/-- A pattern. -/
inductive Pattern where
  /-- Matches the empty text. -/
  | empty
  /-- Changes flags for what follows. -/
  | change (c : FlagChange)
  /-- A piece that holds no other pattern. -/
  | atom (a : Atom)
  /-- Matches any character. -/
  | dot
  /-- Matches a character of a set. -/
  | oneOf (s : CharSet)
  /-- Matches a pattern a number of times. -/
  | repeated (p : Pattern)
  /-- A pattern for which flags are changed. -/
  | group (c : FlagChange) (p : Pattern)
  /-- Matches one of at least two patterns. -/
  | choice (ps : List Pattern)
  /-- Matches at least two patterns one after the other. -/
  | sequence (ps : List Pattern)
deriving Repr

namespace Pattern

/-- The sequence of any number of patterns. -/
def ofList : List Pattern → Pattern
  | [] => .empty
  | [p] => p
  | ps => .sequence ps

mutual

/-- How deep a pattern nests. -/
def depth : Pattern → Nat
  | .oneOf s => s.depth
  | .repeated p => p.depth + 1
  | .group _ p => p.depth + 1
  | .choice ps => depthOfList ps + 1
  | .sequence ps => depthOfList ps + 1
  | _ => 0

/-- How deep the deepest of some patterns nests. -/
def depthOfList : List Pattern → Nat
  | [] => 0
  | p :: rest => max p.depth (depthOfList rest)

end

end Pattern

end RegistryProbe
