import RegistryProbe.Selector.Basic
import RegistryProbe.Text.Blank

/-! # Reading selectors

  A selector is read after the blanks at both ends are removed. It begins with a dot, and then
  passes over the text take one piece each off its front:

  - `."name"` is a step to a member; the name may hold anything but a quote.
  - `.name` is a step to a member; the name is a run of ASCII letters, digits and underscores.
  - `[index]` is a step to an item; blanks may surround the index, a plus sign may precede it, and
    it fits a 64-bit word.
  - A dot in front of a bracket is dropped, so that `.[0]` and `[0]` are the same step.

  Every pass leaves a shorter text (`length_of_pass`), so the reading ends. The first fault from the
  left is the one that is told.
-/

namespace RegistryProbe

/-- Why a text is no selector. -/
inductive Selector.Fault where
  /-- It does not begin with a dot. -/
  | noLeadingDot
  /-- A quoted name has no closing quote. -/
  | openQuote
  /-- A dot is followed by no name. -/
  | emptyName
  /-- A bracket has no partner. -/
  | openBracket
  /-- What stands in brackets is no index. -/
  | badIndex
  /-- Something else than a step follows. -/
  | strayCharacter
deriving DecidableEq, Repr

/-- The reason given to the user. -/
def Selector.Fault.message : Selector.Fault → String
  | noLeadingDot => "path must start with `.`"
  | openQuote => "unterminated quoted key"
  | emptyName => "empty key after `.`"
  | openBracket => "unterminated `[`"
  | badIndex => "array index must be a non-negative integer"
  | strayCharacter => "unexpected character in path"

namespace Selector

/-- The characters of a name that needs no quotes. -/
def isWordChar (c : Char) : Bool :=
  ('a' ≤ c && c ≤ 'z') || ('A' ≤ c && c ≤ 'Z') || ('0' ≤ c && c ≤ '9') || c == '_'

/-- The text before the first occurrence of a mark and the text behind it. -/
def cut? (mark : Char) : List Char → Option (List Char × List Char)
  | [] => none
  | c :: rest =>
    if c = mark then some ([], rest)
    else (cut? mark rest).map fun (before, behind) => (c :: before, behind)

/-- Indices lie below this bound. -/
def indexBound : Nat := UInt64.size

/-- Reads the text between brackets as an index. -/
def index? (t : List Char) : Option Nat := Text.Decimal.readBelow? indexBound (Text.trim t)

/-- One pass over a text: the step it completes, if any, and the text that is left. -/
def pass (t : List Char) : Except Fault (Option Step × List Char) :=
  match t with
  | '.' :: rest =>
    match rest with
    | '"' :: quoted =>
      match cut? '"' quoted with
      | none => .error .openQuote
      | some (name, rest) => .ok (some (.field (String.ofList name)), rest)
    | _ =>
      match rest.takeWhile isWordChar with
      | [] => if rest.head? = some '[' then .ok (none, rest) else .error .emptyName
      | word => .ok (some (.field (String.ofList word)), rest.dropWhile isWordChar)
  | '[' :: rest =>
    match cut? ']' rest with
    | none => .error .openBracket
    | some (inner, rest) =>
      match index? inner with
      | none => .error .badIndex
      | some i => .ok (some (.index i), rest)
  | _ => .error .strayCharacter

theorem length_of_cut? {mark : Char} {t before behind : List Char}
    (h : cut? mark t = some (before, behind)) : behind.length < t.length := by
  induction t generalizing before with
  | nil => simp [cut?] at h
  | cons c t ih =>
    unfold cut? at h
    split at h
    · simp only [Option.some.injEq, Prod.mk.injEq] at h
      obtain ⟨-, rfl⟩ := h
      simp
    · obtain ⟨⟨b, r⟩, hb, heq⟩ := Option.map_eq_some_iff.1 h
      simp only [Prod.mk.injEq] at heq
      obtain ⟨-, rfl⟩ := heq
      have := ih hb
      simp only [List.length_cons]
      omega

/-- A pass leaves a shorter text. -/
theorem length_of_pass {t rest : List Char} {s : Option Step} (h : pass t = .ok (s, rest)) :
    rest.length < t.length := by
  unfold pass at h
  split at h
  · next r =>
    split at h
    · split at h
      · simp at h
      · next hc =>
        have := length_of_cut? hc
        simp only [Except.ok.injEq, Prod.mk.injEq] at h
        obtain ⟨-, rfl⟩ := h
        simp only [List.length_cons]
        omega
    · split at h
      · split at h
        · simp only [Except.ok.injEq, Prod.mk.injEq] at h
          obtain ⟨-, rfl⟩ := h
          simp
        · simp at h
      · simp only [Except.ok.injEq, Prod.mk.injEq] at h
        obtain ⟨-, rfl⟩ := h
        have := (List.dropWhile_sublist isWordChar (l := r)).length_le
        simp only [List.length_cons]
        omega
  · split at h
    · simp at h
    · next hc =>
      have := length_of_cut? hc
      split at h
      · simp at h
      · simp only [Except.ok.injEq, Prod.mk.injEq] at h
        obtain ⟨-, rfl⟩ := h
        simp only [List.length_cons]
        omega
  · simp at h

/-- The steps that a text spells, read by passes from the left. -/
def scan (t : List Char) : Except Fault (List Step) :=
  if t = [] then .ok []
  else
    match _h : pass t with
    | .error f => .error f
    | .ok (s, rest) => (scan rest).map (s.toList ++ ·)
termination_by t.length
decreasing_by exact length_of_pass _h

/-- Reads a selector. -/
def read (expression : String) : Except Fault Selector :=
  let t := Text.trim expression.toList
  if t.head? ≠ some '.' then .error .noLeadingDot
  else if t = ['.'] then .ok ⟨String.ofList t, []⟩
  else (scan t).map (⟨String.ofList t, ·⟩)

end Selector

end RegistryProbe
