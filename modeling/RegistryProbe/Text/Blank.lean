/-! # Blank characters

  The blank characters are those with the Unicode property `White_Space`. `trim` removes them at
  both ends of a text and nowhere else.

  - Blanks that surround a text never show after trimming: `trim_surround`.
  - A trimmed text has no blank left to remove: `trim_trim`.
-/

namespace RegistryProbe.Text

/-- Whether a character has the property `White_Space`. -/
def isBlank (c : Char) : Bool :=
  let n := c.toNat
  (9 ≤ n && n ≤ 13) || n == 0x20 || n == 0x85 || n == 0xA0 || n == 0x1680
    || (0x2000 ≤ n && n ≤ 0x200A) || n == 0x2028 || n == 0x2029 || n == 0x202F
    || n == 0x205F || n == 0x3000

/-- Removes the blanks in front. -/
def trimStart (t : List Char) : List Char := t.dropWhile isBlank

/-- Removes the blanks at the end. -/
def trimEnd (t : List Char) : List Char := (t.reverse.dropWhile isBlank).reverse

/-- Removes the blanks at both ends. -/
def trim (t : List Char) : List Char := trimEnd (trimStart t)

@[simp] theorem trim_nil : trim [] = [] := rfl

theorem trimStart_append_blank {w t : List Char} (hw : ∀ c ∈ w, isBlank c = true) :
    trimStart (w ++ t) = trimStart t := by
  induction w with
  | nil => rfl
  | cons c w ih =>
    have hc := hw c (by simp)
    simp only [trimStart, List.cons_append, List.dropWhile_cons, hc, if_true]
    exact ih fun d hd => hw d (by simp [hd])

theorem trimEnd_append_blank {w t : List Char} (hw : ∀ c ∈ w, isBlank c = true) :
    trimEnd (t ++ w) = trimEnd t := by
  have := trimStart_append_blank (w := w.reverse) (t := t.reverse) (by simpa using hw)
  simpa [trimEnd, trimStart] using this

theorem trimStart_eq_nil_iff {t : List Char} :
    trimStart t = [] ↔ ∀ c ∈ t, isBlank c = true := by
  unfold trimStart
  induction t with
  | nil => simp
  | cons c t ih => by_cases hc : isBlank c = true <;> simp_all

theorem trimStart_append_of_ne_nil {t w : List Char} (h : trimStart t ≠ []) :
    trimStart (t ++ w) = trimStart t ++ w := by
  induction t with
  | nil => exact absurd rfl h
  | cons c t ih =>
    unfold trimStart at *
    by_cases hc : isBlank c = true
    · simp only [List.cons_append, List.dropWhile_cons, hc, if_true] at h ⊢
      exact ih h
    · simp [hc]

theorem trim_surround {w v t : List Char} (hw : ∀ c ∈ w, isBlank c = true)
    (hv : ∀ c ∈ v, isBlank c = true) : trim (w ++ t ++ v) = trim t := by
  unfold trim
  rw [List.append_assoc, trimStart_append_blank hw]
  by_cases h : trimStart t = []
  · have : trimStart (t ++ v) = [] := by
      rw [trimStart_eq_nil_iff] at h ⊢
      intro c hc
      rcases List.mem_append.1 hc with hc | hc
      · exact h c hc
      · exact hv c hc
    rw [this, h]
  · rw [trimStart_append_of_ne_nil h, trimEnd_append_blank hv]

/-- A text is its trimmed form with blanks around it. -/
theorem exists_surround (t : List Char) :
    ∃ w v, (∀ c ∈ w, isBlank c = true) ∧ (∀ c ∈ v, isBlank c = true) ∧ t = w ++ trim t ++ v := by
  refine ⟨t.takeWhile isBlank, ((trimStart t).reverse.takeWhile isBlank).reverse, ?_, ?_, ?_⟩
  · intro c hc
    simpa using List.all_takeWhile (p := isBlank) (l := t) |> List.all_eq_true.1 |> (· c hc)
  · intro c hc
    rw [List.mem_reverse] at hc
    exact List.all_eq_true.1 List.all_takeWhile c hc
  · have h : trim t ++ ((trimStart t).reverse.takeWhile isBlank).reverse = trimStart t := by
      rw [trim, trimEnd, ← List.reverse_append, List.takeWhile_append_dropWhile,
        List.reverse_reverse]
    rw [List.append_assoc, h, trimStart, List.takeWhile_append_dropWhile]

@[simp] theorem trim_trim (t : List Char) : trim (trim t) = trim t := by
  obtain ⟨w, v, hw, hv, h⟩ := exists_surround t
  have := trim_surround (t := trim t) hw hv
  rw [← h] at this
  exact this.symm

end RegistryProbe.Text
