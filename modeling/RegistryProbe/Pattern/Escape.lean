import RegistryProbe.Pattern.Basic
import RegistryProbe.Text.Blank
import RegistryProbe.Text.Hex

/-! # Blanks and escapes in patterns

  Where a pattern is spaced, blanks do not count, nor does a comment, which goes from a hash to the
  end of the line.

  What follows a backslash is an escape: a punctuation mark stands for itself, a letter for a
  control character, a class or a place, and `x`, `u` and `U` announce the number of a character
  with two, four or eight hexadecimal digits. Properties of characters are not known here, and
  neither are references to groups.
-/

namespace RegistryProbe.Pattern

/-! ### Blanks -/

/-- Skips blanks and comments; `inComment` tells whether a comment is under way. -/
def skipBlanks (inComment : Bool) : List Char → List Char
  | [] => []
  | c :: rest =>
    if inComment then skipBlanks (c ≠ '\n') rest
    else if Text.isBlank c then skipBlanks false rest
    else if c = '#' then skipBlanks true rest
    else c :: rest

/-- Skips what does not count. -/
def skip (spaced : Bool) (t : List Char) : List Char :=
  if spaced then skipBlanks false t else t

/-- The next character that counts. Past a hash the look goes on to the next character that is not
    blank, though it belongs to a comment; and if only blanks are left, they are looked at. -/
def peek? (spaced : Bool) (t : List Char) : Option Char :=
  if !spaced then t.head?
  else
    match t.dropWhile Text.isBlank with
    | '#' :: rest => (rest.dropWhile Text.isBlank).head? <|> t.head?
    | rest => rest.head? <|> t.head?

/-! ### Escapes -/

/-- Reads so many hexadecimal digits; `value` is the number of those before. -/
def hexDigits? (spaced : Bool) (value : Nat) : Nat → List Char → Option (Nat × List Char)
  | 0, t => some (value, t)
  | n + 1, t =>
    match skip spaced t with
    | [] => none
    | c :: rest => do hexDigits? spaced (value * 16 + (← Text.Hex.digitValue? c)) n rest

/-- Reads the number of a character. -/
def characterNumber? (spaced : Bool) (size : Nat) (t : List Char) :
    Option (Literal × List Char) := do
  let (n, rest) ← hexDigits? spaced 0 size t
  if n.isValidChar then return (⟨Char.ofNat n, size = 2⟩, rest) else none

/-- The control character that a letter stands for. -/
def control? : Char → Option Char
  | 'a' => some '\x07'
  | 'f' => some '\x0C'
  | 't' => some '\t'
  | 'n' => some '\n'
  | 'r' => some '\r'
  | 'v' => some '\x0B'
  | _ => none

/-- The class or place that a character stands for. -/
def shorthand? : Char → Option Atom
  | 'd' | 's' | 'w' => some (.shorthand false)
  | 'D' | 'S' | 'W' => some (.shorthand true)
  | 'A' | 'z' => some (.anchor .edge)
  | 'b' | 'B' | '<' | '>' => some (.anchor .word)
  | _ => none

/-- Whether a character stands for itself behind a backslash: a mark or control of ASCII, but not an
    angle bracket. -/
def standsForItself (c : Char) : Bool := c.toNat < 0x80 && !c.isAlphanum && c ≠ '<' && c ≠ '>'

/-- Reads what follows a backslash. -/
def escape? (spaced : Bool) : List Char → Option (Atom × List Char)
  | [] => none
  | 'x' :: rest => (characterNumber? spaced 2 rest).map fun r => (.literal r.1, r.2)
  | 'u' :: rest => (characterNumber? spaced 4 rest).map fun r => (.literal r.1, r.2)
  | 'U' :: rest => (characterNumber? spaced 8 rest).map fun r => (.literal r.1, r.2)
  | c :: rest =>
    if standsForItself c then some (.literal ⟨c, false⟩, rest)
    else
      match control? c with
      | some c => some (.literal ⟨c, false⟩, rest)
      | none => (shorthand? c).map (·, rest)

end RegistryProbe.Pattern
