import RegistryProbe.Selector.Basic
import RegistryProbe.Text.Blank
import RegistryProbe.Text.Decimal

/-! # The grammar of selectors

  The written forms of selectors, said without a reader. `Spelling` relates a step to its written
  forms, `Sentence` a list of steps to their concatenations, and `Written` adds the form `.` of the
  empty list and the dot in front.
-/

namespace RegistryProbe.Selector

/-- The characters of a name without quotes: ASCII letters, ASCII digits and underscores. -/
def WordChar (c : Char) : Prop :=
  ('a' ≤ c ∧ c ≤ 'z') ∨ ('A' ≤ c ∧ c ≤ 'Z') ∨ ('0' ≤ c ∧ c ≤ '9') ∨ c = '_'

instance (c : Char) : Decidable (WordChar c) := inferInstanceAs (Decidable (_ ∨ _ ∨ _ ∨ _))

/-- The written forms of an index of 64 bits: digits, possibly with a plus sign, with blanks
    around. -/
inductive Numeral : Nat → List Char → Prop where
  /-- Blanks, a sign or none, digits, blanks. -/
  | intro {before sign ds behind : List Char}
      (blank_before : ∀ c ∈ before, Text.isBlank c = true)
      (sign_eq : sign = [] ∨ sign = ['+'])
      (ds_ne : ds ≠ [])
      (ds_digits : ∀ c ∈ ds, '0' ≤ c ∧ c ≤ '9')
      (blank_behind : ∀ c ∈ behind, Text.isBlank c = true)
      (lt_size : Text.Decimal.value ds < UInt64.size) :
      Numeral (Text.Decimal.value ds) (before ++ sign ++ ds ++ behind)

/-- The written forms of a step. -/
inductive Spelling : Step → List Char → Prop where
  /-- A dot and a name in quotes. -/
  | quoted {q : List Char} (no_quote : '"' ∉ q) :
      Spelling (.field (String.ofList q)) ('.' :: '"' :: (q ++ ['"']))
  /-- A dot and a name of word characters. -/
  | word {w : List Char} (w_ne : w ≠ []) (w_chars : ∀ c ∈ w, WordChar c) :
      Spelling (.field (String.ofList w)) ('.' :: w)
  /-- An index in brackets. -/
  | index {i : Nat} {n : List Char} (numeral : Numeral i n) :
      Spelling (.index i) ('[' :: (n ++ [']']))
  /-- A dot and an index in brackets. -/
  | dottedIndex {i : Nat} {n : List Char} (numeral : Numeral i n) :
      Spelling (.index i) ('.' :: '[' :: (n ++ [']']))

/-- The written forms of a list of steps: the steps' forms in a row. -/
inductive Sentence : List Step → List Char → Prop where
  /-- No step. -/
  | nil : Sentence [] []
  /-- A step in front of others. -/
  | cons {s : Step} {t : List Char} {steps : List Step} {rest : List Char}
      (first : Spelling s t) (others : Sentence steps rest) :
      Sentence (s :: steps) (t ++ rest)

/-- The written forms of a selector, without blanks around them. -/
def Written (steps : List Step) (t : List Char) : Prop :=
  (t = ['.'] ∧ steps = []) ∨ (steps ≠ [] ∧ t.head? = some '.' ∧ Sentence steps t)

end RegistryProbe.Selector
