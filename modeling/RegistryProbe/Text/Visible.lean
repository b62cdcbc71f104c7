import RegistryProbe.Bytes

/-! # Visible rendering of arbitrary bytes

  A body from the network may hold any bytes. Before it reaches a terminal it is rendered so that
  only printable ASCII, newline and tab are left:

  - Printable ASCII, newline and tab stand for themselves.
  - Another control byte is written `^X`, where `X` lies 64 above it; DEL is written `^?`.
  - A byte with the high bit is written `M-` followed by the rendering of the byte without it. Here
    newline and tab are written `^J` and `^I` like every other control byte.

  `reveal` reads a rendering back. It recovers the bytes where a rendering is unambiguous.
-/

namespace RegistryProbe.Text.Visible

/-- The rendering of a byte below 128 as a control or printable character. -/
def caret (b : UInt8) : Bytes :=
  if b < 0x20 then [0x5E, b + 0x40]
  else if b = 0x7F then [0x5E, 0x3F]
  else [b]

/-- The rendering of one byte. -/
def render (b : UInt8) : Bytes :=
  if b = 0x0A ∨ b = 0x09 then [b]
  else if b < 0x80 then caret b
  else [0x4D, 0x2D] ++ caret (b - 0x80)

/-- The rendering of a byte string, byte by byte. -/
def escape (body : Bytes) : Bytes := body.flatMap render

@[simp] theorem escape_nil : escape [] = [] := rfl

@[simp] theorem escape_cons (b : UInt8) (body : Bytes) :
    escape (b :: body) = render b ++ escape body := rfl

@[simp] theorem escape_append (a b : Bytes) : escape (a ++ b) = escape a ++ escape b := by
  simp [escape]

/-! ### Reading a rendering back -/

/-- The byte below 128 that `^` followed by `x` stands for. -/
def uncaret (x : UInt8) : UInt8 := if x = 0x3F then 0x7F else x - 0x40

/-- Reads a rendering back, taking the longest written form at each place. -/
def reveal : Bytes → Bytes
  | 0x4D :: 0x2D :: 0x5E :: x :: rest => (uncaret x + 0x80) :: reveal rest
  | 0x4D :: 0x2D :: x :: rest => (x + 0x80) :: reveal rest
  | 0x5E :: x :: rest => uncaret x :: reveal rest
  | x :: rest => x :: reveal rest
  | [] => []

/-- Printable ASCII. -/
def isPrintable (b : UInt8) : Bool := 0x20 ≤ b && b ≤ 0x7E

/-- The bytes that a rendering may hold. -/
def isHarmless (b : UInt8) : Bool := isPrintable b || b == 0x0A || b == 0x09

theorem all_isHarmless_render (b : UInt8) : (render b).all isHarmless = true := by
  have h : ∀ n : Fin 256, (render (UInt8.ofNat n)).all isHarmless = true := by
    decide +kernel
  have := h ⟨b.toNat, b.toNat_lt⟩
  simpa using this

theorem all_isHarmless_escape (body : Bytes) : (escape body).all isHarmless = true := by
  induction body with
  | nil => rfl
  | cons b body ih => simp [all_isHarmless_render, ih]

end RegistryProbe.Text.Visible
