import RegistryProbe.Selector.Reader

/-! # Byte offsets of a reading

  The passes over a selector, seen as cuts in its UTF-8 form. A pass finds the mark or the end of
  the run that closes its piece, counts bytes up to there, and cuts; `passWidth` is this count and
  `cuts` lists the offsets of all cuts.
-/

namespace RegistryProbe.Selector

/-- The number of bytes in the UTF-8 form of a text. -/
def byteLength : List Char → Nat
  | [] => 0
  | c :: rest => c.utf8Size + byteLength rest

/-- How many bytes stand in front of the first character of a kind. -/
def byteIndex? (p : Char → Bool) : List Char → Option Nat
  | [] => none
  | c :: rest => if p c then some 0 else (byteIndex? p rest).map (c.utf8Size + ·)

/-- How many bytes a pass takes off the front of a text; `none` where the pass fails for want of
    a closing mark or a name. -/
def passWidth (t : List Char) : Option Nat :=
  match t with
  | '.' :: rest =>
    match rest with
    | '"' :: quoted => (byteIndex? (· = '"') quoted).map (1 + 1 + · + 1)
    | _ =>
      let run := (byteIndex? (fun c => !isWordChar c) rest).getD (byteLength rest)
      if run = 0 then
        if rest.head? = some '[' then some 1 else none
      else some (1 + run)
  | '[' :: rest => (byteIndex? (· = ']') rest).map (1 + · + 1)
  | _ => none

/-- The offsets at which the passes over a text cut, counted from the start of the whole text, of
    which `offset` bytes have been read. -/
def cuts (offset : Nat) (t : List Char) : List Nat :=
  if t = [] then []
  else
    match _h : pass t with
    | .error _ => []
    | .ok (_, rest) =>
      match passWidth t with
      | none => []
      | some width => (offset + width) :: cuts (offset + width) rest
termination_by t.length
decreasing_by exact length_of_pass _h

end RegistryProbe.Selector
