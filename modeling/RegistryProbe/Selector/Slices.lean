import RegistryProbe.Selector.Offsets

/-! # Reading selectors by slices

  The passes over a selector, carried out on its UTF-8 form. A pass looks for the character that
  closes its piece, and slices the text at byte offsets that it counts up to there. A slice exists
  only at an offset within the text that does not stand within a character; anywhere else the
  reading breaks off.

  - `slicedPass` is one pass, with every slice that it takes.
  - `Rounds` says what a number of passes in a row have completed and what they leave, and `Ends`
    when there are no more and what they come to.
-/

namespace RegistryProbe.Selector

/-- Why a pass leaves no text to go on with. -/
inductive Halt where
  /-- The text is no selector. -/
  | refused (fault : Fault)
  /-- A slice at an offset past the end of a text or within one of its characters. -/
  | misplaced (text : String) (offset : Nat)
deriving DecidableEq, Repr

/-! ### Slices -/

/-- The text up to a byte offset. -/
def sliceTo (s : String) (offset : Nat) : Except Halt String :=
  if h : String.Pos.Raw.IsValid s ⟨offset⟩ then .ok (s.sliceTo (s.pos ⟨offset⟩ h)).copy
  else .error (.misplaced s offset)

/-- The text from a byte offset on. -/
def sliceFrom (s : String) (offset : Nat) : Except Halt String :=
  if h : String.Pos.Raw.IsValid s ⟨offset⟩ then .ok (s.sliceFrom (s.pos ⟨offset⟩ h)).copy
  else .error (.misplaced s offset)

/-- No slice begins within a character of two bytes. -/
example : sliceFrom "é]" 1 = .error (.misplaced "é]" 1) := by rfl

/-- The text behind its first character, if this is the given one. -/
def behind? (c : Char) (s : String) : Option String :=
  if s.toList.head? = some c then some (String.ofList s.toList.tail) else none

/-! ### One pass -/

/-- A pass behind a dot and a quote: the name goes up to the next quote. -/
def quotedPass (behind : String) : Except Halt (Option Step × String) :=
  match byteIndex? (· = '"') behind.toList with
  | none => .error (.refused .openQuote)
  | some stop => do
    let name ← sliceTo behind stop
    let rest ← sliceFrom behind (stop + 1)
    return (some (.field name), rest)

/-- A pass behind a dot that no quote follows: the name goes up to the first character that is no
    word character, or to the end. -/
def wordPass (behind : String) : Except Halt (Option Step × String) :=
  let stop := (byteIndex? (fun c => !isWordChar c) behind.toList).getD behind.utf8ByteSize
  if stop = 0 then
    if behind.toList.head? = some '[' then .ok (none, behind) else .error (.refused .emptyName)
  else do
    let name ← sliceTo behind stop
    let rest ← sliceFrom behind stop
    return (some (.field name), rest)

/-- A pass behind a bracket: the index goes up to its partner. -/
def bracketPass (behind : String) : Except Halt (Option Step × String) :=
  match byteIndex? (· = ']') behind.toList with
  | none => .error (.refused .openBracket)
  | some stop => do
    let inner ← sliceTo behind stop
    match index? inner.toList with
    | none => .error (.refused .badIndex)
    | some i =>
      let rest ← sliceFrom behind (stop + 1)
      return (some (.index i), rest)

/-- One pass over a text: the step it completes, if any, and the text that is left. -/
def slicedPass (s : String) : Except Halt (Option Step × String) :=
  match behind? '.' s with
  | some behindDot =>
    match behind? '"' behindDot with
    | some behindQuote => quotedPass behindQuote
    | none => wordPass behindDot
  | none =>
    match behind? '[' s with
    | some behindBracket => bracketPass behindBracket
    | none => .error (.refused .strayCharacter)

/-! ### Passes in a row -/

/-- A number of passes over a text, with the steps that they completed and the text that they
    leave. -/
inductive Rounds (t : String) : Nat → List Step → String → Prop where
  /-- No pass, and the whole text is left. -/
  | start : Rounds t 0 [] t
  /-- One more pass, where something is left. -/
  | pass {n : Nat} {taken : List Step} {left rest : String} {s : Option Step}
      (before : Rounds t n taken left) (goes_on : left ≠ "")
      (passed : slicedPass left = .ok (s, rest)) : Rounds t (n + 1) (taken ++ s.toList) rest

/-- The passes over a text end: after how many, and with what. -/
inductive Ends (t : String) : Nat → Except Halt (List Step) → Prop where
  /-- Nothing is left, and the steps are those that were completed. -/
  | read {n : Nat} {taken : List Step} (before : Rounds t n taken "") : Ends t n (.ok taken)
  /-- The last pass halts. -/
  | halted {n : Nat} {taken : List Step} {left : String} {halt : Halt}
      (before : Rounds t n taken left) (goes_on : left ≠ "")
      (halts : slicedPass left = .error halt) : Ends t (n + 1) (.error halt)

end RegistryProbe.Selector
