/-! # Ranges of characters

  A property of characters is given as a list of ranges of their numbers.
-/

namespace RegistryProbe.Text

/-- Whether a number lies in one of some ranges, the ends of a range included. -/
def inRanges (ranges : List (Nat × Nat)) (n : Nat) : Bool :=
  ranges.any fun r => r.1 ≤ n && n ≤ r.2

/-- A number lies in none of some ranges if each of them ends in front of it or starts behind it. -/
theorem inRanges_eq_false {ranges : List (Nat × Nat)} {low high n : Nat}
    (apart : ranges.all (fun r => r.2 < low || high < r.1) = true)
    (hl : low ≤ n) (hh : n ≤ high) : inRanges ranges n = false := by
  rw [inRanges, List.any_eq_false]
  intro r hr
  have h := List.all_eq_true.1 apart r hr
  simp only [Bool.or_eq_true, decide_eq_true_eq] at h
  simp only [Bool.and_eq_true, decide_eq_true_eq]
  omega

end RegistryProbe.Text
