import RegistryProbe.Proofs.Selector.Decomposition
import RegistryProbe.Selector.Canonical

/-! # Reading canonical texts

  The canonical text of a list of steps is a sentence of the grammar, without blanks around it. So
  the reader finds the steps again, whatever the names hold apart from quotes. No other steps can be
  read from any text.
-/

namespace RegistryProbe.Selector

/-! ### One step -/

theorem numeral_digits {i : Nat} (h : i < UInt64.size) : Numeral i (Text.Decimal.digits i) := by
  rw [← index?_eq_some_iff]
  have hdigits := Text.Decimal.all_isDigit_iff.1 (Text.Decimal.all_isDigit_digits i)
  have htrim : Text.trim (Text.Decimal.digits i) = Text.Decimal.digits i :=
    Text.trim_eq_self
      (fun c hc => Text.isBlank_of_digit (hdigits c (List.mem_of_head? hc)))
      (fun c hc => Text.isBlank_of_digit (hdigits c (List.mem_of_getLast? hc)))
  rw [index?, htrim]
  exact Text.Decimal.readBelow?_digits h

theorem spelling_stepText {s : Step} (h : IsExpressible s) : Spelling s (stepText s) := by
  cases s with
  | field name =>
    have := Spelling.quoted h
    rwa [String.ofList_toList] at this
  | index i => exact .dottedIndex (numeral_digits h)

theorem Numeral.lt_size {i : Nat} {t : List Char} (h : Numeral i t) : i < UInt64.size := by
  obtain ⟨-, -, -, -, -, hbound⟩ := h
  exact hbound

/-- A step that has a written form at all is expressible. -/
theorem Spelling.isExpressible {s : Step} {t : List Char} (h : Spelling s t) :
    IsExpressible s := by
  cases h with
  | quoted no_quote => simpa [IsExpressible] using no_quote
  | @word w _ w_chars =>
    have hquote : '"' ∉ w := fun hmem => (w_chars _ hmem).ne_quote rfl
    simpa [IsExpressible] using hquote
  | index numeral => exact numeral.lt_size
  | dottedIndex numeral => exact numeral.lt_size

/-! ### Several steps -/

theorem sentence_flatMap_stepText {steps : List Step} (h : ∀ s ∈ steps, IsExpressible s) :
    Sentence steps (steps.flatMap stepText) := by
  induction steps with
  | nil => exact .nil
  | cons s steps ih =>
    have hrest := ih fun s' hs' => h s' (List.mem_cons_of_mem s hs')
    exact .cons (spelling_stepText (h s List.mem_cons_self)) hrest

theorem Sentence.isExpressible {steps : List Step} {t : List Char} (h : Sentence steps t) :
    ∀ s ∈ steps, IsExpressible s := by
  induction h with
  | nil => exact fun s hs => absurd hs List.not_mem_nil
  | cons first _ ih => exact List.forall_mem_cons.2 ⟨first.isExpressible, ih⟩

theorem scan_flatMap_stepText {steps : List Step} (h : ∀ s ∈ steps, IsExpressible s) :
    scan (steps.flatMap stepText) = .ok steps :=
  scan_eq_ok_iff_sentence.2 (sentence_flatMap_stepText h)

/-! ### Nothing is trimmed off a canonical text -/

theorem head?_flatMap_stepText {steps : List Step} (h : steps ≠ []) :
    (steps.flatMap stepText).head? = some '.' := by
  obtain ⟨s, rest, rfl⟩ := List.exists_cons_of_ne_nil h
  cases s <;> rfl

theorem getLast?_stepText (s : Step) :
    (stepText s).getLast? = some '"' ∨ (stepText s).getLast? = some ']' := by
  cases s with
  | field name =>
    left
    rw [stepText, ← List.cons_append, ← List.cons_append, List.getLast?_concat]
  | index i =>
    right
    rw [stepText, ← List.cons_append, ← List.cons_append, List.getLast?_concat]

theorem getLast?_flatMap_stepText {steps : List Step} (h : steps ≠ []) :
    (steps.flatMap stepText).getLast? = some '"' ∨
      (steps.flatMap stepText).getLast? = some ']' := by
  rw [← List.dropLast_concat_getLast h, List.flatMap_append, List.flatMap_singleton,
    List.getLast?_append]
  -- the last step ends with its own mark
  rcases getLast?_stepText (steps.getLast h) with hlast | hlast
  · exact .inl (by rw [hlast, Option.some_or])
  · exact .inr (by rw [hlast, Option.some_or])

theorem trim_flatMap_stepText (steps : List Step) :
    Text.trim (steps.flatMap stepText) = steps.flatMap stepText := by
  by_cases hnil : steps = []
  · rw [hnil]
    rfl
  · refine Text.trim_eq_self (fun c hc => ?_) (fun c hc => ?_)
    · cases (head?_flatMap_stepText hnil).symm.trans hc
      decide
    · rcases getLast?_flatMap_stepText hnil with hlast | hlast
      · cases hlast.symm.trans hc
        decide
      · cases hlast.symm.trans hc
        decide

theorem flatMap_stepText_ne_dot (steps : List Step) : steps.flatMap stepText ≠ ['.'] := by
  intro h
  by_cases hnil : steps = []
  · rw [hnil] at h
    cases h
  · have hlast := getLast?_flatMap_stepText hnil
    rw [h] at hlast
    revert hlast
    decide

/-! ### Canonical texts -/

theorem read_canonical {steps : List Step} (h : ∀ s ∈ steps, IsExpressible s) :
    read (canonical steps) = .ok ⟨canonical steps, steps⟩ := by
  by_cases hnil : steps = []
  · subst hnil
    exact read_of_dot (by decide)
  · have hcanonical : canonical steps = String.ofList (steps.flatMap stepText) := if_neg hnil
    have htrim : Text.trim (canonical steps).toList = steps.flatMap stepText := by
      rw [hcanonical, String.toList_ofList, trim_flatMap_stepText]
    have hread := read_of_head (htrim ▸ head?_flatMap_stepText hnil)
      (htrim ▸ flatMap_stepText_ne_dot steps)
    rw [hread, htrim, scan_flatMap_stepText h, hcanonical]
    rfl

/-- The steps of a selector that was read are expressible. -/
theorem isExpressible_of_read {expression : String} {sel : Selector}
    (h : read expression = .ok sel) : ∀ s ∈ sel.steps, IsExpressible s := by
  obtain ⟨-, ⟨-, hsteps⟩ | ⟨-, -, hscan⟩⟩ := read_eq_ok_iff_scan.1 h
  · rw [hsteps]
    exact fun s hs => absurd hs List.not_mem_nil
  · exact (scan_eq_ok_iff_sentence.1 hscan).isExpressible

/-- A list of steps can be read from its canonical text exactly if all its steps are expressible.
    Those that are read from any other text are, so they can be read from their canonical text
    again. -/
theorem canonical_texts_are_read :
    (∀ steps, (∀ s ∈ steps, IsExpressible s) ↔
      read (canonical steps) = .ok ⟨canonical steps, steps⟩) ∧
    ∀ expression sel, read expression = .ok sel →
      (∀ s ∈ sel.steps, IsExpressible s) ∧
        read (canonical sel.steps) = .ok ⟨canonical sel.steps, sel.steps⟩ := by
  refine ⟨fun steps => ⟨read_canonical, isExpressible_of_read⟩, fun expression sel h => ?_⟩
  have hexpressible := isExpressible_of_read h
  exact ⟨hexpressible, read_canonical hexpressible⟩

/-- A name keeps its dots, brackets and blanks, and may be empty. -/
example : canonical [.field " .[", .index 17, .field ""] = ".\" .[\".[17].\"\"" := by cbv

end RegistryProbe.Selector
