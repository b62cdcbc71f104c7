import RegistryProbe.Proofs.Probe.Judging
import RegistryProbe.Proofs.Selector.Composing

/-! # The text that is shown is the text that is applied

  A selector shows the expression that it was read from, without the blanks around it. A failed
  verdict names the caller's expectation by this text.

  - `Expectation.ReadAlike` says of two expressions that nobody can tell which of them was read,
    except that a refusal quotes the expression itself. It holds of expressions that differ in the
    blanks around them alone: `readAlike_of_trim_eq`.
  - The text that a selector shows is read as this selector: `Selector.read_text`. There is nothing
    left to trim in it, so the second reading sees what the first one saw.
  - `ShownAsApplied` puts this together for one expression, with the verdicts under it.

  Blanks inside brackets and quotes are not touched: the expression is the text that is shown, with
  blanks in front and behind.
-/

namespace RegistryProbe

variable {expression one other : String} {sel : Selector}

/-! ### Blanks around an expression -/

/-- A text of blanks alone, or of nothing. -/
def Text.IsBlank (s : String) : Prop := ∀ c ∈ s.toList, Text.isBlank c = true

/-- Two expressions are read alike. -/
inductive Expectation.ReadAlike (one other : String) : Prop where
  /-- Both are accepted, as the same expectation. -/
  | accepted {expectation : Expectation} (first : Expectation.read one = .ok expectation)
      (second : Expectation.read other = .ok expectation) : ReadAlike one other
  /-- Both are refused for the same reason, and each refusal quotes its own expression. -/
  | refused {reason : String}
      (first : Expectation.read one = .error (.invalidExpectation one reason))
      (second : Expectation.read other = .error (.invalidExpectation other reason)) :
      ReadAlike one other

namespace Selector

/-- The reader sees nothing of an expression but its trimmed form. -/
theorem read_congr (h : Text.trim one.toList = Text.trim other.toList) : read one = read other := by
  unfold read
  rw [h]

/-- What a selector shows is read as this selector. -/
theorem read_text (h : read expression = .ok sel) : read sel.text = .ok sel := by
  obtain ⟨hwritten, htrim⟩ := written_of_read h
  have hread := read_of_written hwritten htrim
  rw [String.ofList_toList] at hread
  exact hread

/-- An expression is the text that its selector shows, with blanks around it. -/
theorem exists_blanks_of_read (h : read expression = .ok sel) :
    ∃ before after, Text.IsBlank before ∧ Text.IsBlank after ∧
      expression = before ++ sel.text ++ after := by
  obtain ⟨w, v, hw, hv, hsurround⟩ := Text.exists_surround expression.toList
  refine ⟨String.ofList w, String.ofList v, ?_, ?_, ?_⟩
  · intro c hc
    rw [String.toList_ofList] at hc
    exact hw c hc
  · intro c hc
    rw [String.toList_ofList] at hc
    exact hv c hc
  · rw [(read_eq_ok_iff_written.1 h).1, ← String.ofList_append, ← String.ofList_append,
      ← hsurround, String.ofList_toList]

end Selector

namespace Expectation

theorem read_eq_ok_iff {expectation : Expectation} :
    read expression = .ok expectation ↔
      ∃ sel, Selector.read expression = .ok sel ∧ expectation = .at sel := by
  unfold read
  cases Selector.read expression with
  | error fault => simp
  | ok sel => simp [eq_comm]

theorem readAlike_of_trim_eq (h : Text.trim one.toList = Text.trim other.toList) :
    ReadAlike one other := by
  have hread := Selector.read_congr h
  cases hother : Selector.read other with
  | ok sel =>
    rw [hother] at hread
    exact .accepted (read_eq_ok_iff.2 ⟨sel, hread, rfl⟩) (read_eq_ok_iff.2 ⟨sel, hother, rfl⟩)
  | error fault =>
    rw [hother] at hread
    apply ReadAlike.refused
    · rw [read, hread]
    · rw [read, hother]

theorem readAlike_surrounded {before after : String} (hbefore : Text.IsBlank before)
    (hafter : Text.IsBlank after) : ReadAlike expression (before ++ expression ++ after) := by
  apply readAlike_of_trim_eq
  rw [String.toList_append, String.toList_append, Text.trim_surround hbefore hafter]

end Expectation

/-! ### What is shown -/

/-- A failed verdict on a response with status 200 names the caller's expectation. -/
theorem eq_text_of_mismatch {request : Request} {response : Response} {callers : Expectation}
    {url text : String} {body : Bytes} (hstatus : response.status = 200)
    (h : verdict request response callers = .error (.mismatch url text body)) :
    text = callers.text := by
  obtain ⟨-, -, -, -, htext⟩ := ((verdict_judges request response callers).mismatch_iff _ _ _).1 h
  rw [htext, if_pos hstatus]

/-- What is so of an expression and of the text by which it is shown. -/
structure ShownAsApplied (expression : String) : Prop where
  /-- Blanks that are put around it change nothing. -/
  surrounded : ∀ before after, Text.IsBlank before → Text.IsBlank after →
    Expectation.ReadAlike expression (before ++ expression ++ after)
  /-- Nothing of it is hidden but the blanks around it. -/
  shown : ∀ sel, Selector.read expression = .ok sel → ∃ before after,
    Text.IsBlank before ∧ Text.IsBlank after ∧ expression = before ++ sel.text ++ after
  /-- The text that is shown is read as the same selector, with the same steps and the same text. -/
  read_again : ∀ sel, Selector.read expression = .ok sel → Selector.read sel.text = .ok sel
  /-- A response with status 200 that is not as expected is told with this text, and so with one
      that is read as the expectation that was applied. -/
  named : ∀ callers, Expectation.read expression = .ok callers →
    ∀ (request : Request) (response : Response) (url text : String) (body : Bytes),
      response.status = 200 →
      verdict request response callers = .error (.mismatch url text body) →
      text = callers.text ∧ Expectation.read text = .ok callers

/-- Every expression is read alike whatever blanks are put around it, and the text by which it is
    shown is the one that was applied. -/
theorem expectations_are_shown_as_applied (expression : String) : ShownAsApplied expression := by
  refine ⟨?_, fun _ => Selector.exists_blanks_of_read, fun _ => Selector.read_text, ?_⟩
  · intro before after hbefore hafter
    exact Expectation.readAlike_surrounded hbefore hafter
  · intro callers hread request response url text body hstatus hverdict
    obtain ⟨sel, hsel, rfl⟩ := Expectation.read_eq_ok_iff.1 hread
    have htext : text = sel.text := eq_text_of_mismatch hstatus hverdict
    refine ⟨htext, ?_⟩
    rw [htext]
    exact Expectation.read_eq_ok_iff.2 ⟨sel, Selector.read_text hsel, rfl⟩

/-- A wide blank and the end of a line around the single dot. -/
example : Expectation.ReadAlike "." "\u2003.\n" := Expectation.readAlike_of_trim_eq (by decide)

end RegistryProbe
