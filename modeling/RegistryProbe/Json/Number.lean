import RegistryProbe.Text.Decimal
import RegistryProbe.Text.Hex

/-! # JSON numbers

  A number is whole when it is written without fraction and exponent and fits a 64-bit word, signed
  for a negative one. Every other number is a double, among them `-0`.

  Doubles are read in machine arithmetic, one rounding per operation:

  - Digits are gathered into an unsigned 64-bit significand as long as they fit. A digit of the
    whole part that no longer fits counts as a factor of ten, one of the fraction is dropped.
  - The significand is rounded to a double and then multiplied or divided once by a power of ten.
    A scale below `10 ^ -308` is reached by repeated division.
  - A number beyond the largest double is refused.
-/

namespace RegistryProbe.Json

open Text.Decimal (isDigit digitValue valueUpTo)

/-- A JSON number. -/
inductive Number where
  /-- A whole number that fits a machine word. -/
  | whole (value : Int)
  /-- A double, given by its bit pattern. -/
  | double (bits : UInt64)
deriving DecidableEq, Repr, Inhabited

namespace Number

/-! ### The written form -/

/-- The parts of a written number. -/
structure Numeral where
  /-- Whether a minus sign stands in front. -/
  negative : Bool
  /-- The digits of the whole part. -/
  whole : List Char
  /-- The digits after the point, if there is one. -/
  fraction : Option (List Char)
  /-- The sign of the exponent, `true` for a minus, and its digits. -/
  exponent : Option (Bool × List Char)
deriving DecidableEq, Repr

/-- Splits a run of digits off the front. -/
def digitRun (t : List Char) : List Char × List Char :=
  (t.takeWhile isDigit, t.dropWhile isDigit)

/-- Reads the digits of a whole part, which has no leading zero unless it is zero. -/
def wholePart? (t : List Char) : Option (List Char × List Char) :=
  match digitRun t with
  | ([], _) => none
  | (['0'], rest) => some (['0'], rest)
  | ('0' :: _, _) => none
  | (ds, rest) => some (ds, rest)

/-- Reads a fraction if a point follows; the point needs a digit after it. -/
def fraction? (t : List Char) : Option (Option (List Char) × List Char) :=
  match t with
  | '.' :: rest =>
    match digitRun rest with
    | ([], _) => none
    | (ds, rest) => some (some ds, rest)
  | _ => some (none, t)

/-- Reads the digits of an exponent under a given sign. -/
def exponentDigits? (negative : Bool) (t : List Char) :
    Option (Option (Bool × List Char) × List Char) :=
  match digitRun t with
  | ([], _) => none
  | (ds, rest) => some (some (negative, ds), rest)

/-- Reads an exponent if its mark follows; the mark needs a digit after it. -/
def exponent? (t : List Char) : Option (Option (Bool × List Char) × List Char) :=
  match t with
  | c :: rest =>
    if c = 'e' ∨ c = 'E' then
      match rest with
      | '-' :: rest => exponentDigits? true rest
      | '+' :: rest => exponentDigits? false rest
      | _ => exponentDigits? false rest
    else some (none, t)
  | [] => some (none, t)

/-- Reads the longest numeral at the front of a text. -/
def numeral? (t : List Char) : Option (Numeral × List Char) := do
  let (negative, t) := match t with
    | '-' :: rest => (true, rest)
    | _ => (false, t)
  let (ds, t) ← wholePart? t
  let (fraction, t) ← fraction? t
  let (exponent, t) ← exponent? t
  return (⟨negative, ds, fraction, exponent⟩, t)

/-! ### Its value -/

/-- Appends digits to a significand while it stays below `2 ^ 64`; also gives the digits left. -/
def gather : Nat → List Char → Nat × List Char
  | n, [] => (n, [])
  | n, d :: ds =>
    if n * 10 + digitValue d < UInt64.size then gather (n * 10 + digitValue d) ds else (n, d :: ds)

/-- The double nearest to a power of ten. -/
def powerOfTen (k : Nat) : Float := Float.ofScientific 1 false k

/-- Divides a double by `10 ^ k`, in steps of `10 ^ 308` while `k` is larger. -/
def scaleDown (f : Float) (k : Nat) : Float :=
  if k ≤ 308 then f / powerOfTen k
  else if f == 0 then f
  else scaleDown (f / powerOfTen 308) (k - 308)
termination_by k

/-- The double `n * 10 ^ e`; `none` if it is too large. -/
def scaled? (n : Nat) (e : Int) : Option Float :=
  let f := n.toUInt64.toFloat
  if e < 0 then some (scaleDown f e.natAbs)
  else if e ≤ 308 then
    let g := f * powerOfTen e.natAbs
    if g.isInf then none else some g
  else if f == 0 then some f
  else none

/-- A double with a sign put in front. -/
def signed (negative : Bool) (f : Float) : Number :=
  .double (if negative then (-f).toBits else f.toBits)

/-- The number without fraction and exponent whose significand is `n`. -/
def ofWhole (negative : Bool) (n : Nat) : Number :=
  if negative then
    if 0 < n ∧ n ≤ UInt64.size / 2 then .whole (-(n : Int)) else signed true n.toUInt64.toFloat
  else .whole n

/-- The largest exponent whose digits are taken at their value. -/
def exponentLimit : Nat := UInt32.size / 2 - 1

/-- The number that a numeral stands for; `none` if it is beyond the largest double. -/
def ofNumeral? (m : Numeral) : Option Number :=
  let (n, extra) := gather 0 m.whole
  if m.fraction = none ∧ m.exponent = none ∧ extra = [] then some (ofWhole m.negative n)
  else
    let ds := m.fraction.getD []
    let (n, dropped) := gather n ds
    let e : Int := (extra.length : Int) - ((ds.length - dropped.length : Nat) : Int)
    match m.exponent with
    | none => (scaled? n e).map (signed m.negative)
    | some (minus, xs) =>
      let x := valueUpTo (exponentLimit + 1) xs
      if x ≤ exponentLimit then
        (scaled? n (if minus then e - x else e + x)).map (signed m.negative)
      else if n ≠ 0 ∧ ¬ minus then none
      else some (signed m.negative 0)

/-- Reads the longest number at the front of a text. -/
def read? (t : List Char) : Option (Number × List Char) := do
  let (m, rest) ← numeral? t
  let n ← ofNumeral? m
  return (n, rest)

/-! ### Its text -/

/-- The canonical text: a whole number in decimal, a double as `f` and the sixteen hexadecimal
    digits of its bit pattern, so that no two numbers share a text. -/
def text : Number → List Char
  | .whole n =>
    if n < 0 then '-' :: Text.Decimal.digits n.natAbs else Text.Decimal.digits n.natAbs
  | .double bits => 'f' :: Text.Hex.padded 16 bits.toNat

/-! ### Reading moves forward -/

theorem digitRun_length (t : List Char) : (digitRun t).2.length ≤ t.length :=
  (List.dropWhile_sublist isDigit).length_le

theorem length_of_wholePart? {t ds rest : List Char} (h : wholePart? t = some (ds, rest)) :
    rest.length < t.length := by
  have hlen : (digitRun t).1.length + (digitRun t).2.length = t.length := by
    rw [← List.length_append]
    simp [digitRun]
  unfold wholePart? at h
  split at h
  · simp at h
  · next heq =>
    simp only [Option.some.injEq, Prod.mk.injEq] at h
    obtain ⟨-, rfl⟩ := h
    simp only [heq, List.length_cons, List.length_nil] at hlen
    omega
  · simp at h
  · next ds' rest' hne _ _ heq =>
    simp only [Option.some.injEq, Prod.mk.injEq] at h
    obtain ⟨-, rfl⟩ := h
    have := List.length_pos_iff.2 hne
    simp only [heq] at hlen
    omega

theorem length_of_fraction? {t rest : List Char} {f : Option (List Char)}
    (h : fraction? t = some (f, rest)) : rest.length ≤ t.length := by
  unfold fraction? at h
  split at h
  · next r =>
    have := digitRun_length r
    split at h
    · simp at h
    · next heq => simp at h; rw [heq] at this; simp at this ⊢; rw [← h.2]; omega
  · simp at h; simp [h.2]

theorem length_of_exponentDigits? {minus : Bool} {t rest : List Char}
    {e : Option (Bool × List Char)} (h : exponentDigits? minus t = some (e, rest)) :
    rest.length ≤ t.length := by
  have := digitRun_length t
  unfold exponentDigits? at h
  split at h
  · simp at h
  · next heq => simp at h; rw [heq] at this; rw [← h.2]; exact this

theorem length_of_exponent? {t rest : List Char} {e : Option (Bool × List Char)}
    (h : exponent? t = some (e, rest)) : rest.length ≤ t.length := by
  unfold exponent? at h
  split at h
  · next c r =>
    split at h
    · split at h <;> · have := length_of_exponentDigits? h; simp at this ⊢; omega
    · simp at h; simp [← h.2]
  · simp at h; simp [h.2]

theorem length_of_numeral? {t rest : List Char} {m : Numeral} (h : numeral? t = some (m, rest)) :
    rest.length < t.length := by
  simp only [numeral?, Option.bind_eq_bind, Option.bind_eq_some_iff, Prod.exists,
    Option.pure_def, Option.some.injEq, Prod.mk.injEq] at h
  obtain ⟨ds, t₁, h₁, f, t₂, h₂, e, t₃, h₃, -, rfl⟩ := h
  have h₁ := length_of_wholePart? h₁
  have h₂ := length_of_fraction? h₂
  have h₃ := length_of_exponent? h₃
  have : (match t with
    | '-' :: rest => (true, rest)
    | _ => (false, t)).2.length ≤ t.length := by
    split <;> simp
  omega

theorem length_of_read? {t rest : List Char} {n : Number} (h : read? t = some (n, rest)) :
    rest.length < t.length := by
  simp only [read?, Option.bind_eq_bind, Option.bind_eq_some_iff, Prod.exists,
    Option.pure_def, Option.some.injEq, Prod.mk.injEq] at h
  obtain ⟨m, r, hm, -, -, -, rfl⟩ := h
  exact length_of_numeral? hm

end Number

end RegistryProbe.Json
