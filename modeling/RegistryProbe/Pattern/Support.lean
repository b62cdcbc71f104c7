import RegistryProbe.Pattern.Reader

/-! # Patterns that can be used

  A pattern is used on texts in UTF-8 and without tables of Unicode. That leaves some patterns
  without a meaning:

  - With Unicode, the shorthand classes and the ends of words, and characters in either case.
  - Without Unicode, whatever could match a part of a character: the dot, a byte beyond ASCII and
    whatever is negated. In brackets only ASCII can stand.
-/

namespace RegistryProbe

/-- How a part of a pattern is taken. -/
structure Mode where
  /-- Letters stand for themselves in either case. -/
  ignoreCase : Bool := false
  /-- Characters are those of Unicode and not those of ASCII. -/
  unicode : Bool := true
deriving DecidableEq, Repr

/-- The mode after a change. -/
def Mode.change (m : Mode) (c : FlagChange) : Mode :=
  ⟨c.apply .ignoreCase m.ignoreCase, c.apply .unicode m.unicode⟩

/-- Whether a literal is a character of ASCII. -/
def Literal.isAscii (l : Literal) : Bool := l.char.toNat < 0x80

/-- Whether characters can be looked up, as they cannot in either case beyond ASCII. -/
def Mode.tellsCharacters (m : Mode) : Bool := !(m.unicode && m.ignoreCase)

namespace CharSet

mutual

/-- Whether a set can be used in a mode. -/
def isUsable (m : Mode) : CharSet → Bool
  | .empty => true
  | .literal l => m.tellsCharacters && (m.unicode || l.isAscii)
  | .range first last => m.tellsCharacters && (m.unicode || (first.isAscii && last.isAscii))
  | .named negated => m.tellsCharacters && (m.unicode || !negated)
  | .shorthand negated => !m.unicode && !negated
  | .bracket negated content => (m.unicode || !negated) && content.isUsable m
  | .union sets => areUsable m sets
  | .combination left right => left.isUsable m && right.isUsable m

/-- Whether some sets can be used in a mode. -/
def areUsable (m : Mode) : List CharSet → Bool
  | [] => true
  | s :: rest => s.isUsable m && areUsable m rest

end

end CharSet

namespace Pattern

/-- Whether a piece can be used in a mode. -/
def Atom.isUsable (m : Mode) : Atom → Bool
  | .literal l => m.tellsCharacters && (m.unicode || !l.isByte || l.isAscii)
  | .shorthand negated => !m.unicode && !negated
  | .anchor .edge => true
  | .anchor .word => !m.unicode

mutual

/-- The mode after a pattern that is used in a mode, unless it cannot be used. -/
def modeAfter? (m : Mode) : Pattern → Option Mode
  | .empty => some m
  | .change c => some (m.change c)
  | .atom a => if Atom.isUsable m a then some m else none
  | .dot => if m.unicode then some m else none
  | .oneOf s => if s.isUsable m then some m else none
  | .repeated p => p.modeAfter? m
  | .group c p => (p.modeAfter? (m.change c)).map fun _ => m
  | .choice ps => modeAfterAll? m ps
  | .sequence ps => modeAfterAll? m ps

/-- The mode after patterns that are used one after the other. -/
def modeAfterAll? (m : Mode) : List Pattern → Option Mode
  | [] => some m
  | p :: rest => (p.modeAfter? m).bind fun m => modeAfterAll? m rest

end

/-- Whether a text is a pattern that can be used. -/
def isUsable (t : List Char) : Bool := ((read? t).bind (modeAfter? {})).isSome

end Pattern

end RegistryProbe
