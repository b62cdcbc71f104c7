import RegistryProbe.Uri.Basic

/-! # Reading URIs

  A text is split at its first marks: the scheme ends at `://`, the authority at the first slash,
  question mark or hash, the path at a question mark or hash, the query at a hash. What follows a
  hash is dropped. Each part admits its own characters:

  - An authority has at most one colon in its host part, brackets only as one pair, and a percent
    sign only in front of `@` or inside the brackets.
  - A path admits nearly all visible characters, among them quotes and braces. Beyond ASCII it
    admits everything.
  - A query admits a few more.
-/

namespace RegistryProbe.Uri

/-- The longest URI, in bytes. -/
def maxLength : Nat := 65534

/-- The longest scheme. -/
def maxScheme : Nat := 64

/-- ASCII letters and digits. -/
def isAlphanum (c : Char) : Bool :=
  ('a' ≤ c && c ≤ 'z') || ('A' ≤ c && c ≤ 'Z') || ('0' ≤ c && c ≤ '9')

/-- The characters of a scheme. -/
def isSchemeChar (c : Char) : Bool := isAlphanum c || ['+', '-', '.', '~'].contains c

/-- The characters of an authority, apart from the percent sign. -/
def isAuthorityChar (c : Char) : Bool :=
  isAlphanum c || "!$&'()*+,-.:;=@[]_~".toList.contains c

/-- The marks that end an authority. -/
def endsAuthority (c : Char) : Bool := c == '/' || c == '?' || c == '#'

/-- The characters of a path, other than its end marks. -/
def isPathChar (c : Char) : Bool :=
  let n := c.toNat
  n == 0x21 || n == 0x22 || (0x24 ≤ n && n ≤ 0x3B) || n == 0x3D || (0x40 ≤ n && n ≤ 0x5F)
    || (0x61 ≤ n && n ≤ 0x7E) || 0x80 ≤ n

/-- The characters of a query, other than its end mark. -/
def isQueryChar (c : Char) : Bool :=
  let n := c.toNat
  n == 0x21 || (0x24 ≤ n && n ≤ 0x3B) || n == 0x3D || (0x3F ≤ n && n ≤ 0x7E) || 0x80 ≤ n

/-! ### The parts -/

/-- A text with ASCII letters in lower case. -/
def lower (t : List Char) : List Char := t.map Char.toLower

/-- Takes a scheme and its `://` off the front of a text, if there is one. The marks alone are none.
    -/
def scheme? (t : List Char) : Except Fault (Option String × List Char) :=
  if lower (t.take 7) = "http://".toList then .ok (some "http", t.drop 7)
  else if lower (t.take 8) = "https://".toList then .ok (some "https", t.drop 8)
  else
    let name := t.takeWhile isSchemeChar
    if 3 < t.length ∧ (t.drop name.length).take 3 = "://".toList then
      if maxScheme < name.length then .error .schemeTooLong
      else .ok (some (String.ofList name), t.drop (name.length + 3))
    else .ok (none, t)

/-- What has been seen of an authority. -/
structure AuthorityScan where
  /-- Colons since the last `@` or closing bracket. -/
  colons : Nat := 0
  /-- A bracket was opened. -/
  opened : Bool := false
  /-- A bracket was closed. -/
  closed : Bool := false
  /-- A percent sign since the last `@` or closing bracket. -/
  percent : Bool := false
deriving DecidableEq, Repr

/-- The most colons that an authority holds at any time, as many as an address in brackets needs. -/
def maxColons : Nat := 8

/-- Takes one character of an authority. -/
def AuthorityScan.step (s : AuthorityScan) (c : Char) : Except Fault AuthorityScan :=
  if c = ':' then
    if maxColons ≤ s.colons then .error .badAuthority else .ok { s with colons := s.colons + 1 }
  else if c = '[' then
    if s.percent || s.opened then .error .badAuthority else .ok { s with opened := true }
  else if c = ']' then
    if !s.opened || s.closed then .error .badAuthority
    else .ok { s with closed := true, colons := 0, percent := false }
  else if c = '@' then .ok { s with colons := 0, percent := false }
  else if c = '%' then .ok { s with percent := true }
  else if isAuthorityChar c then .ok s
  else .error .badCharacter

/-- Whether an authority is well formed as a whole, given what has been seen of it. -/
def AuthorityScan.isComplete (s : AuthorityScan) (name : List Char) : Bool :=
  s.opened == s.closed && s.colons ≤ 1 && name.getLast? ≠ some '@' && !s.percent

/-- Takes an authority off the front of a text. -/
def authority? (t : List Char) : Except Fault (String × List Char) :=
  let name := t.takeWhile (!endsAuthority ·)
  match name.foldlM AuthorityScan.step {} with
  | .error f => .error f
  | .ok s =>
    if s.isComplete name then .ok (String.ofList name, t.drop name.length)
    else .error .badAuthority

/-- Reads a path and a query; a fragment is dropped. -/
def pathAndQuery? (t : List Char) : Except Fault (String × Option String) :=
  let path := t.takeWhile fun c => c ≠ '?' && c ≠ '#'
  if !path.all isPathChar then .error .badCharacter
  else
    match t.drop path.length with
    | '?' :: rest =>
      let query := rest.takeWhile (· ≠ '#')
      if !query.all isQueryChar then .error .badCharacter
      else .ok (String.ofList path, some (String.ofList query))
    | _ => .ok (String.ofList path, none)

/-! ### The whole -/

/-- Reads a URI that consists of a path and a query. -/
def readPath (t : List Char) : Except Fault Uri := do
  let (path, query) ← pathAndQuery? t
  return ⟨none, "", path, query⟩

/-- Reads a URI that is an authority and nothing else. -/
def readAuthority (t : List Char) : Except Fault Uri := do
  let (authority, rest) ← authority? t
  if rest = [] then .ok ⟨none, authority, "", none⟩
  else .error (if t.length = 1 then .badCharacter else .badFormat)

/-- Reads what follows the scheme of a URI. -/
def readAbsolute (scheme : String) (t : List Char) : Except Fault Uri := do
  let (authority, rest) ← authority? t
  if t = [] then .error .empty
  else if authority = "" then .error .badFormat
  else do
    let (path, query) ← pathAndQuery? rest
    return ⟨some scheme, authority, path, query⟩

/-- Reads a URI. -/
def read (s : String) : Except Fault Uri :=
  match s.toList with
  | [] => .error .empty
  | ['*'] => .ok ⟨none, "", "*", none⟩
  | c :: rest =>
    if maxLength < s.utf8ByteSize then .error .tooLong
    else if c = '/' then readPath (c :: rest)
    else if rest = [] then readAuthority [c]
    else
      match scheme? (c :: rest) with
      | .error f => .error f
      | .ok (none, t) => readAuthority t
      | .ok (some scheme, t) => readAbsolute scheme t

end RegistryProbe.Uri
