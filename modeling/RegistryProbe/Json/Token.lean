import RegistryProbe.Json.Basic

/-! # JSON tokens

  A JSON text is a sequence of tokens with blanks between them. `Token.next?` takes the token at
  the front of a text, `Token.lex?` reads all of them:

  - The blanks are space, tab, newline and carriage return.
  - A string ends at its closing quote; inside it no control character below U+0020 may stand, and
    a code unit of a surrogate pair only in front of or behind its partner.
  - Two values in a row are no concern of this module: each is a token, and the reader of documents
    refuses the sequence.

  `Token.text` writes a token.
-/

namespace RegistryProbe.Json

/-- The smallest meaningful piece of a JSON text. -/
inductive Token where
  /-- The opening bracket of an array. -/
  | openArray
  /-- The closing bracket of an array. -/
  | closeArray
  /-- The opening brace of an object. -/
  | openObject
  /-- The closing brace of an object. -/
  | closeObject
  /-- The comma between items or members. -/
  | comma
  /-- The colon between a name and its value. -/
  | colon
  /-- The word `null`. -/
  | null
  /-- The word `true` or `false`. -/
  | bool (b : Bool)
  /-- A number. -/
  | number (n : Number)
  /-- A string with its escapes resolved. -/
  | string (s : String)
deriving DecidableEq, Repr

namespace Token

/-! ### The characters of a string -/

/-- Reads four hexadecimal digits. -/
def codeUnit? : List Char → Option (Nat × List Char)
  | a :: b :: c :: d :: rest => do
    let a ← Text.Hex.digitValue? a
    let b ← Text.Hex.digitValue? b
    let c ← Text.Hex.digitValue? c
    let d ← Text.Hex.digitValue? d
    return (((a * 16 + b) * 16 + c) * 16 + d, rest)
  | _ => none

/-- The code units that only stand in front of a partner. -/
def isLeading (u : Nat) : Bool := 0xD800 ≤ u && u ≤ 0xDBFF

/-- The code units that only stand behind a partner. -/
def isTrailing (u : Nat) : Bool := 0xDC00 ≤ u && u ≤ 0xDFFF

/-- The trailing code unit that has to follow a leading one. -/
def partner? : List Char → Option (Nat × List Char)
  | '\\' :: 'u' :: rest =>
    match codeUnit? rest with
    | some (v, rest) => if isTrailing v then some (v, rest) else none
    | none => none
  | _ => none

/-- The character given by code units, after the mark `\u`. -/
def numbered? (t : List Char) : Option (Char × List Char) :=
  match codeUnit? t with
  | none => none
  | some (u, rest) =>
    if isTrailing u then none
    else if isLeading u then
      match partner? rest with
      | some (v, rest) => some (Char.ofNat (0x10000 + (u - 0xD800) * 0x400 + (v - 0xDC00)), rest)
      | none => none
    else some (Char.ofNat u, rest)

/-- The character that an escape stands for, given the character after the backslash. -/
def escaped? (e : Char) (rest : List Char) : Option (Char × List Char) :=
  match e with
  | '"' => some ('"', rest)
  | '\\' => some ('\\', rest)
  | '/' => some ('/', rest)
  | 'b' => some ('\x08', rest)
  | 'f' => some ('\x0c', rest)
  | 'n' => some ('\n', rest)
  | 'r' => some ('\r', rest)
  | 't' => some ('\t', rest)
  | 'u' => numbered? rest
  | _ => none

/-- Reads one character of a string, plain or escaped. -/
def character? : List Char → Option (Char × List Char)
  | [] => none
  | c :: rest =>
    if c = '\\' then
      match rest with
      | e :: rest => escaped? e rest
      | [] => none
    else if c.toNat < 0x20 then none
    else some (c, rest)

theorem length_of_codeUnit? {t rest : List Char} {u : Nat} (h : codeUnit? t = some (u, rest)) :
    rest.length < t.length := by
  match t with
  | [] | [_] | [_, _] | [_, _, _] => simp [codeUnit?] at h
  | a :: b :: c :: d :: r =>
    simp only [codeUnit?, Option.bind_eq_bind, Option.bind_eq_some_iff, Option.pure_def,
      Option.some.injEq, Prod.mk.injEq] at h
    obtain ⟨_, _, _, _, _, _, _, _, _, rfl⟩ := h
    simp only [List.length_cons]
    omega

theorem length_of_partner? {t rest : List Char} {u : Nat} (h : partner? t = some (u, rest)) :
    rest.length < t.length := by
  unfold partner? at h
  split at h
  · next r =>
    split at h
    · next v r' heq =>
      have := length_of_codeUnit? heq
      split at h
      · simp only [Option.some.injEq, Prod.mk.injEq] at h
        obtain ⟨-, rfl⟩ := h
        simp only [List.length_cons]
        omega
      · simp at h
    · simp at h
  · simp at h

theorem length_of_numbered? {t rest : List Char} {c : Char} (h : numbered? t = some (c, rest)) :
    rest.length < t.length := by
  unfold numbered? at h
  split at h
  · simp at h
  · next u r heq =>
    have hr := length_of_codeUnit? heq
    split at h
    · simp at h
    · split at h
      · split at h
        · next v r' hp =>
          have := length_of_partner? hp
          simp only [Option.some.injEq, Prod.mk.injEq] at h
          obtain ⟨-, rfl⟩ := h
          omega
        · simp at h
      · simp only [Option.some.injEq, Prod.mk.injEq] at h
        obtain ⟨-, rfl⟩ := h
        exact hr

theorem length_of_escaped? {e : Char} {t rest : List Char} {c : Char}
    (h : escaped? e t = some (c, rest)) : rest.length ≤ t.length := by
  unfold escaped? at h
  split at h
  case h_9 => exact Nat.le_of_lt (length_of_numbered? h)
  all_goals first
    | (simp only [Option.some.injEq, Prod.mk.injEq] at h; simp [h.2])
    | simp at h

theorem length_of_character? {t rest : List Char} {c : Char}
    (h : character? t = some (c, rest)) : rest.length < t.length := by
  match t with
  | [] => simp [character?] at h
  | d :: r =>
    simp only [character?] at h
    split at h
    · split at h
      · next e r' => have := length_of_escaped? h; simp only [List.length_cons]; omega
      · simp at h
    · split at h
      · simp at h
      · simp only [Option.some.injEq, Prod.mk.injEq] at h
        obtain ⟨-, rfl⟩ := h
        simp

/-- Reads the rest of a string up to its closing quote; `done` holds the characters read so far,
    the last one first. -/
def content? (done : List Char) (t : List Char) : Option (String × List Char) :=
  match t with
  | '"' :: rest => some (String.ofList done.reverse, rest)
  | t =>
    match _h : character? t with
    | none => none
    | some (c, rest) => content? (c :: done) rest
termination_by t.length
decreasing_by exact length_of_character? _h

theorem length_of_content? {done t rest : List Char} {s : String}
    (h : content? done t = some (s, rest)) : rest.length < t.length := by
  fun_induction content? done t with
  | case1 done r =>
    simp only [Option.some.injEq, Prod.mk.injEq] at h
    obtain ⟨-, rfl⟩ := h
    simp
  | case2 => simp at h
  | case3 done t _ c r hc ih =>
    have := ih h
    have := length_of_character? hc
    omega

/-! ### Tokens -/

/-- A character that may stand between tokens. -/
def isBlank (c : Char) : Bool := c == ' ' || c == '\t' || c == '\n' || c == '\r'

/-- Reads the token at the front of a text that does not begin with a blank. -/
def next? : List Char → Option (Token × List Char)
  | '[' :: rest => some (openArray, rest)
  | ']' :: rest => some (closeArray, rest)
  | '\x7b' :: rest => some (openObject, rest)
  | '\x7d' :: rest => some (closeObject, rest)
  | ',' :: rest => some (comma, rest)
  | ':' :: rest => some (colon, rest)
  | 'n' :: 'u' :: 'l' :: 'l' :: rest => some (null, rest)
  | 't' :: 'r' :: 'u' :: 'e' :: rest => some (bool true, rest)
  | 'f' :: 'a' :: 'l' :: 's' :: 'e' :: rest => some (bool false, rest)
  | '"' :: rest => (content? [] rest).map fun (s, rest) => (string s, rest)
  | t => (Number.read? t).map fun (n, rest) => (number n, rest)

theorem length_of_next? {t rest : List Char} {k : Token} (h : next? t = some (k, rest)) :
    rest.length < t.length := by
  unfold next? at h
  split at h
  case h_10 r =>
    obtain ⟨⟨s, r'⟩, hs, heq⟩ := Option.map_eq_some_iff.1 h
    simp only [Prod.mk.injEq] at heq
    obtain ⟨-, rfl⟩ := heq
    have := length_of_content? hs
    simp only [List.length_cons]
    omega
  case h_11 =>
    obtain ⟨⟨n, r'⟩, hn, heq⟩ := Option.map_eq_some_iff.1 h
    simp only [Prod.mk.injEq] at heq
    obtain ⟨-, rfl⟩ := heq
    exact Number.length_of_read? hn
  all_goals
    simp only [Option.some.injEq, Prod.mk.injEq] at h
    obtain ⟨-, rfl⟩ := h
    simp only [List.length_cons]
    omega

/-- Reads all tokens of a text; `done` holds the tokens read so far, the last one first. -/
def lexFrom? (done : List Token) (t : List Char) : Option (List Token) :=
  match t with
  | [] => some done.reverse
  | c :: rest =>
    if isBlank c then lexFrom? done rest
    else
      match _h : next? (c :: rest) with
      | none => none
      | some (k, rest) => lexFrom? (k :: done) rest
termination_by t.length
decreasing_by
  · simp
  · exact length_of_next? _h

/-- The tokens of a text; `none` where it holds something else. -/
def lex? (t : List Char) : Option (List Token) := lexFrom? [] t

/-! ### Writing tokens -/

/-- A character between the quotes of a string: quote and backslash are escaped, and so are the
    characters below U+0020, with a letter where they have one. -/
def encodeChar (c : Char) : List Char :=
  if c = '"' ∨ c = '\\' then ['\\', c]
  else if c = '\x08' then ['\\', 'b']
  else if c = '\x0c' then ['\\', 'f']
  else if c = '\n' then ['\\', 'n']
  else if c = '\r' then ['\\', 'r']
  else if c = '\t' then ['\\', 't']
  else if c.toNat < 0x20 then ['\\', 'u'] ++ Text.Hex.padded 4 c.toNat
  else [c]

/-- The text of a token. -/
def text : Token → List Char
  | openArray => ['[']
  | closeArray => [']']
  | openObject => ['\x7b']
  | closeObject => ['\x7d']
  | comma => [',']
  | colon => [':']
  | null => ['n', 'u', 'l', 'l']
  | bool true => ['t', 'r', 'u', 'e']
  | bool false => ['f', 'a', 'l', 's', 'e']
  | number n => n.text
  | string s => '"' :: (s.toList.flatMap encodeChar ++ ['"'])

end Token

end RegistryProbe.Json
