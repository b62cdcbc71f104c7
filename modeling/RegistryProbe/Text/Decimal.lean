/-! # Decimal numerals

  `digits` writes a natural number in decimal without leading zeros. `read?` reads an unsigned
  numeral: an optional plus sign and at least one ASCII digit, leading zeros allowed.
  `readBelow?` also asks that the value lies below a bound, such as the size of a machine word:
  `readBelow?_eq`.
-/

namespace RegistryProbe.Text.Decimal

/-- An ASCII digit. -/
def isDigit (c : Char) : Bool := '0' ≤ c && c ≤ '9'

/-- The digit that stands for a number below ten. -/
def digit (n : Nat) : Char := Char.ofNat (48 + n)

/-- The number that a digit stands for. -/
def digitValue (c : Char) : Nat := c.toNat - 48

/-- The value of a run of digits, the leftmost being the most significant. -/
def value (ds : List Char) : Nat := ds.foldl (fun n d => n * 10 + digitValue d) 0

/-- The value of a run of digits, or the bound if the value is not below it. The numbers on the way
    stay small however long the run is. -/
def valueUpTo (bound : Nat) (ds : List Char) : Nat :=
  ds.foldl (fun n d => min bound (n * 10 + digitValue d)) 0

/-- The decimal digits of a number, without leading zeros. -/
def digits (n : Nat) : List Char :=
  if n < 10 then [digit n] else digits (n / 10) ++ [digit (n % 10)]

/-- The decimal text of a number. -/
def text (n : Nat) : String := String.ofList (digits n)

/-- The digits of a numeral: an optional plus sign, then one or more digits and nothing else. -/
def numeral? (t : List Char) : Option (List Char) :=
  let ds := match t with
    | '+' :: rest => rest
    | _ => t
  if ds ≠ [] ∧ ds.all isDigit then some ds else none

/-- Reads a numeral. -/
def read? (t : List Char) : Option Nat := (numeral? t).map value

/-- Reads a numeral whose value lies below the bound. -/
def readBelow? (bound : Nat) (t : List Char) : Option Nat :=
  match numeral? t with
  | none => none
  | some ds =>
    let n := valueUpTo bound ds
    if n < bound then some n else none

/-! ### The bounded value -/

theorem valueUpTo_eq (bound : Nat) (ds : List Char) :
    valueUpTo bound ds = min bound (value ds) := by
  have h : ∀ (ds : List Char) (n : Nat),
      ds.foldl (fun n d => min bound (n * 10 + digitValue d)) (min bound n) =
        min bound (ds.foldl (fun n d => n * 10 + digitValue d) n) := by
    intro ds
    induction ds with
    | nil =>
      intro n
      rfl
    | cons d ds ih =>
      intro n
      have hstep : min bound (min bound n * 10 + digitValue d) =
          min bound (n * 10 + digitValue d) := by omega
      rw [List.foldl_cons, List.foldl_cons, hstep]
      exact ih _
  have hzero : min bound 0 = 0 := Nat.min_eq_right (Nat.zero_le bound)
  have := h ds 0
  rw [hzero] at this
  exact this

theorem readBelow?_eq (bound : Nat) (t : List Char) :
    readBelow? bound t = (read? t).filter (· < bound) := by
  unfold readBelow? read?
  cases numeral? t with
  | none => rfl
  | some ds =>
    show (if valueUpTo bound ds < bound then some (valueUpTo bound ds) else none) =
      (some (value ds)).filter (· < bound)
    rw [valueUpTo_eq]
    by_cases h : value ds < bound
    · have hmin : min bound (value ds) = value ds := by omega
      simp [hmin, h, Option.filter]
    · have hmin : min bound (value ds) = bound := by omega
      simp [hmin, h, Option.filter]

/-! ### What is written is read back -/

theorem isDigit_digit {n : Nat} (h : n < 10) : isDigit (digit n) = true := by
  have : ∀ k : Fin 10, isDigit (digit k) = true := by decide
  exact this ⟨n, h⟩

theorem digitValue_digit {n : Nat} (h : n < 10) : digitValue (digit n) = n := by
  have : ∀ k : Fin 10, digitValue (digit k) = k := by decide
  exact this ⟨n, h⟩

theorem all_isDigit_digits (n : Nat) : (digits n).all isDigit = true := by
  fun_induction digits n with
  | case1 n h => simp [isDigit_digit h]
  | case2 n h ih => simp [ih, isDigit_digit (Nat.mod_lt n (by decide))]

theorem digits_ne_nil (n : Nat) : digits n ≠ [] := by
  unfold digits
  split <;> simp

@[simp] theorem value_digits (n : Nat) : value (digits n) = n := by
  fun_induction digits n with
  | case1 n h => simp [value, digitValue_digit h]
  | case2 n h ih =>
    unfold value at ih ⊢
    rw [List.foldl_append, ih]
    simp only [List.foldl_cons, List.foldl_nil, digitValue_digit (Nat.mod_lt n (by decide))]
    omega

theorem numeral?_digits (n : Nat) : numeral? (digits n) = some (digits n) := by
  have hall := all_isDigit_digits n
  have hne := digits_ne_nil n
  unfold numeral?
  split
  next rest heq =>
    rw [heq] at hall
    simp [isDigit] at hall
  next => simp [hne, hall]

@[simp] theorem read?_digits (n : Nat) : read? (digits n) = some n := by
  simp [read?, numeral?_digits]

theorem readBelow?_digits {bound n : Nat} (h : n < bound) :
    readBelow? bound (digits n) = some n := by
  simp [readBelow?_eq, h]

theorem digits_injective {m n : Nat} (h : digits m = digits n) : m = n := by
  have := value_digits m
  rw [h, value_digits] at this
  exact this.symm

end RegistryProbe.Text.Decimal
