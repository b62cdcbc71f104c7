import RegistryProbe.Text.Hex
import RegistryProbe.Text.Hidden

/-! # Quoted path names

  Messages about a directory quote its path in double quotes. Inside the quotes, tab, newline,
  carriage return and NUL have short escapes, a quote and a backslash are preceded by a backslash,
  and any other character without a visible form of its own is given by its number in braces.
-/

namespace RegistryProbe.Text.Quoted

/-- The form of one character between the quotes. -/
def encodeChar (c : Char) : List Char :=
  if c = '"' ∨ c = '\\' then ['\\', c]
  else if c = '\t' then ['\\', 't']
  else if c = '\n' then ['\\', 'n']
  else if c = '\r' then ['\\', 'r']
  else if c.toNat = 0 then ['\\', '0']
  else if isHidden c then ['\\', 'u', '\x7b'] ++ Hex.digits c.toNat ++ ['\x7d']
  else [c]

/-- A name between double quotes. -/
def quote (name : String) : String :=
  String.ofList (['"'] ++ name.toList.flatMap encodeChar ++ ['"'])

end RegistryProbe.Text.Quoted
