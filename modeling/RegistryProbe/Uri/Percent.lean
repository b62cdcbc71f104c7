import RegistryProbe.Bytes
import RegistryProbe.Text.Hex

/-! # Percent-encoded text

  A percent sign and two hexadecimal digits stand for one byte. Any other percent sign stands for
  itself, and so does every other character for its UTF-8 form.
-/

namespace RegistryProbe.Uri.Percent

/-- The byte that two hexadecimal digits stand for. -/
def byte? (a b : Char) : Option UInt8 := do
  let a ← Text.Hex.digitValue? a
  let b ← Text.Hex.digitValue? b
  return UInt8.ofNat (a * 16 + b)

/-- The bytes that a percent-encoded text stands for. -/
def decode : List Char → Bytes
  | '%' :: a :: b :: rest =>
    match byte? a b with
    | some x => x :: decode rest
    | none => 0x25 :: decode (a :: b :: rest)
  | c :: rest => Bytes.ofText (String.singleton c) ++ decode rest
  | [] => []

/-- The text that a percent-encoded text stands for, if its bytes are UTF-8. -/
def text? (s : String) : Option String := Bytes.text? (decode s.toList)

/-- The relation between bytes and their percent-encoded spellings. -/
inductive Spells : Bytes → List Char → Prop where
  /-- Nothing is spelled as nothing. -/
  | nil : Spells [] []
  /-- A byte given by two hexadecimal digits. -/
  | hex {a b : Char} {x : UInt8} {bytes : Bytes} {t : List Char} (digits : byte? a b = some x)
      (rest : Spells bytes t) : Spells (x :: bytes) ('%' :: a :: b :: t)
  /-- A character other than the percent sign. -/
  | plain {c : Char} {bytes : Bytes} {t : List Char} (ne : c ≠ '%') (rest : Spells bytes t) :
      Spells (Bytes.ofText (String.singleton c) ++ bytes) (c :: t)

end RegistryProbe.Uri.Percent
