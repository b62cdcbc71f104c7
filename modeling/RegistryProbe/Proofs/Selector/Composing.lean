import RegistryProbe.Proofs.Selector.Decomposition

/-! # Selectors in a row

  The texts of two selectors, put one behind the other, are the text of a selector again. It has the
  steps of both, and it leads where the second one leads from where the first one led.

  - `Written` gives the texts of selectors apart from the blanks around them:
    `read_eq_ok_iff_written`.
  - Words with dots in front are the text of a selector: `read_wordsText`.
  - Two sentences in a row are a sentence: `Sentence.append`. A step begins with a dot or a bracket,
    so the last word of the first sentence does not go on into the second.
  - Where two selectors meet there is nothing to trim: `Written.trim_append`.

  The selector `.` takes no part in this. Its dot is not the beginning of a step.
-/

namespace RegistryProbe

/-- No blank stands at the end of a trimmed text. -/
theorem Text.isBlank_getLast?_trim {t : List Char} {c : Char}
    (h : (Text.trim t).getLast? = some c) : Text.isBlank c = false := by
  rw [Text.trim, Text.trimEnd, List.getLast?_reverse] at h
  have hnot := List.head?_dropWhile_not Text.isBlank (Text.trimStart t).reverse
  rw [h] at hnot
  simpa using hnot

namespace Selector

variable {expression first second : String} {sel p q : Selector} {steps more : List Step}
  {t u : List Char}

/-! ### The texts of selectors -/

/-- A written form is the single dot or steps in a row with a dot in front. -/
theorem written_iff :
    Written steps t ↔
      (t = ['.'] ∧ steps = []) ∨ (t.head? = some '.' ∧ t ≠ ['.'] ∧ Sentence steps t) := by
  constructor
  · intro h
    rcases h with hdot | ⟨-, hhead, hsentence⟩
    · exact .inl hdot
    · refine .inr ⟨hhead, ?_, hsentence⟩
      intro hdot
      rw [hdot] at hsentence
      exact not_sentence_dot steps hsentence
  · intro h
    rcases h with hdot | ⟨hhead, -, hsentence⟩
    · exact .inl hdot
    · refine .inr ⟨?_, hhead, hsentence⟩
      intro hnil
      subst hnil
      cases hsentence
      cases hhead

/-- The reader takes exactly the written forms, after it has removed the blanks around them. -/
theorem read_eq_ok_iff_written :
    read expression = .ok sel ↔
      sel.text = String.ofList (Text.trim expression.toList) ∧
        Written sel.steps (Text.trim expression.toList) := by
  rw [read_eq_ok_iff_scan, written_iff, scan_eq_ok_iff_sentence]

theorem written_of_read (h : read expression = .ok sel) :
    Written sel.steps sel.text.toList ∧ Text.trim sel.text.toList = sel.text.toList := by
  obtain ⟨htext, hwritten⟩ := read_eq_ok_iff_written.1 h
  rw [htext, String.toList_ofList]
  exact ⟨hwritten, Text.trim_trim _⟩

/-- A written form with nothing to trim is read as itself. -/
theorem read_of_written (hwritten : Written steps t) (htrim : Text.trim t = t) :
    read (String.ofList t) = .ok ⟨String.ofList t, steps⟩ := by
  rw [read_eq_ok_iff_written, String.toList_ofList, htrim]
  exact ⟨rfl, hwritten⟩

/-! ### Words -/

theorem WordChar.not_blank {c : Char} (h : WordChar c) : Text.isBlank c = false := by
  have hc : 0x30 ≤ c.toNat ∧ c.toNat ≤ 0x7A := by
    rcases h with ⟨hge, hle⟩ | ⟨hge, hle⟩ | ⟨hge, hle⟩ | rfl
    · exact ⟨Nat.le_trans (by decide) hge, hle⟩
    · exact ⟨Nat.le_trans (by decide) hge, Nat.le_trans hle (by decide)⟩
    · exact ⟨hge, Nat.le_trans hle (by decide)⟩
    · decide
  simp only [Text.isBlank, Bool.or_eq_false_iff, Bool.and_eq_false_iff, decide_eq_false_iff_not,
    beq_eq_false_iff_ne]
  omega

/-- A name that needs no quotes. -/
def isWord (name : String) : Bool := !name.toList.isEmpty && name.toList.all (WordChar ·)

theorem isWord_iff {name : String} :
    isWord name = true ↔ name.toList ≠ [] ∧ ∀ c ∈ name.toList, WordChar c := by
  simp only [isWord, Bool.and_eq_true, Bool.not_eq_true', List.isEmpty_eq_false_iff,
    List.all_eq_true, decide_eq_true_iff]

/-- The text of a selector whose steps are all words. -/
def wordsText (names : List String) : List Char := names.flatMap fun name => '.' :: name.toList

theorem sentence_wordsText {names : List String} (h : names.all isWord = true) :
    Sentence (names.map .field) (wordsText names) := by
  induction names with
  | nil => exact .nil
  | cons name names ih =>
    rw [List.all_cons, Bool.and_eq_true] at h
    obtain ⟨hne, hchars⟩ := isWord_iff.1 h.1
    have hfirst : Spelling (.field (String.ofList name.toList)) ('.' :: name.toList) :=
      .word hne hchars
    rw [String.ofList_toList] at hfirst
    exact .cons hfirst (ih h.2)

/-- Words in a row, each with a dot in front, are read as steps to members. -/
theorem read_wordsText (names : List String) (hne : names ≠ []) (h : names.all isWord = true) :
    read (String.ofList (wordsText names)) =
      .ok ⟨String.ofList (wordsText names), names.map .field⟩ := by
  have hblank : ∀ c ∈ wordsText names, Text.isBlank c = false := by
    intro c hc
    obtain ⟨name, hname, hc⟩ := List.mem_flatMap.1 hc
    rcases List.mem_cons.1 hc with rfl | hc
    · decide
    · have hword := isWord_iff.1 (List.all_eq_true.1 h name hname)
      exact (hword.2 c hc).not_blank
  have htrim : Text.trim (wordsText names) = wordsText names :=
    Text.trim_eq_self (fun c hc => hblank c (List.mem_of_head? hc))
      (fun c hc => hblank c (List.mem_of_getLast? hc))
  have hhead : (wordsText names).head? = some '.' := by
    obtain ⟨name, rest, rfl⟩ := List.exists_cons_of_ne_nil hne
    rfl
  exact read_of_written (.inr ⟨by simpa using hne, hhead, sentence_wordsText h⟩) htrim

/-! ### One behind the other -/

theorem Sentence.append (h : Sentence steps t) (h' : Sentence more u) :
    Sentence (steps ++ more) (t ++ u) := by
  induction h with
  | nil => exact h'
  | cons first _ ih =>
    rw [List.append_assoc, List.cons_append]
    exact .cons first ih

/-- A written form other than the single dot. -/
theorem Written.sentence (h : Written steps t) (hdot : t ≠ ['.']) :
    steps ≠ [] ∧ t.head? = some '.' ∧ Sentence steps t := by
  rcases h with ⟨h, -⟩ | h
  · exact absurd h hdot
  · exact h

theorem Written.append (h : Written steps t) (hdot : t ≠ ['.']) (h' : Written more u)
    (hdot' : u ≠ ['.']) : Written (steps ++ more) (t ++ u) := by
  obtain ⟨hsteps, hhead, hsentence⟩ := h.sentence hdot
  obtain ⟨-, -, hsentence'⟩ := h'.sentence hdot'
  right
  refine ⟨?_, ?_, hsentence.append hsentence'⟩
  · intro hnil
    exact hsteps (List.append_eq_nil_iff.1 hnil).1
  · rw [List.head?_append, hhead, Option.some_or]

/-- The first text begins with a dot and the second one ends without a blank. -/
theorem Written.trim_append (h : Written steps t) (hdot : t ≠ ['.']) (h' : Written more u)
    (hdot' : u ≠ ['.']) (htrim' : Text.trim u = u) : Text.trim (t ++ u) = t ++ u := by
  obtain ⟨-, hhead, -⟩ := h.sentence hdot
  obtain ⟨-, hhead', -⟩ := h'.sentence hdot'
  apply Text.trim_eq_self
  · intro c hc
    rw [List.head?_append, hhead] at hc
    cases hc
    decide
  · intro c hc
    have hne : u ≠ [] := by
      intro hnil
      rw [hnil] at hhead'
      cases hhead'
    rw [List.getLast?_append, List.getLast?_eq_some_getLast hne, Option.some_or,
      ← List.getLast?_eq_some_getLast hne, ← htrim'] at hc
    exact Text.isBlank_getLast?_trim hc

theorem toList_ne_dot {text : String} (h : text ≠ ".") : text.toList ≠ ['.'] := by
  intro heq
  apply h
  rw [← String.ofList_toList (s := text), heq]

/-- The texts of two selectors in a row are read as the steps of the first and then those of the
    second, and this leads where the second one leads from where the first one led. -/
theorem selectors_compose (hp : read first = .ok p) (hq : read second = .ok q)
    (hp_dot : p.text ≠ ".") (hq_dot : q.text ≠ ".") :
    ∃ r, read (p.text ++ q.text) = .ok r ∧ r.steps = p.steps ++ q.steps ∧
      r.text = p.text ++ q.text ∧
      ∀ d, resolve? r.steps d = (resolve? p.steps d).bind (resolve? q.steps) := by
  obtain ⟨hwritten, -⟩ := written_of_read hp
  obtain ⟨hwritten', htrim'⟩ := written_of_read hq
  have hdot := toList_ne_dot hp_dot
  have hdot' := toList_ne_dot hq_dot
  have hread := read_of_written (hwritten.append hdot hwritten' hdot')
    (hwritten.trim_append hdot hwritten' hdot' htrim')
  have htext : String.ofList (p.text.toList ++ q.text.toList) = p.text ++ q.text := by
    rw [String.ofList_append, String.ofList_toList, String.ofList_toList]
  rw [htext] at hread
  exact ⟨_, hread, rfl, rfl, resolve?_append p.steps q.steps⟩

/-- A word meets a dot in front of a bracket, and a name in quotes ends the text. -/
theorem selectors_compose_at_bracket :
    let p : Selector := ⟨".versions", [.field "versions"]⟩
    let q : Selector := ⟨".[ +1 ].\" \"", [.index 1, .field " "]⟩
    read " .versions " = .ok p ∧ read ".[ +1 ].\" \"\n" = .ok q ∧ p.text ≠ "." ∧ q.text ≠ "." ∧
      ∃ r, read (p.text ++ q.text) = .ok r ∧ r.steps = p.steps ++ q.steps ∧
        r.text = p.text ++ q.text ∧
        ∀ d, resolve? r.steps d = (resolve? p.steps d).bind (resolve? q.steps) := by
  have hp : read " .versions " = .ok ⟨".versions", [.field "versions"]⟩ := by
    have htrim : Text.trim " .versions ".toList = ".versions".toList := by decide
    have hsentence : Sentence [.field "versions"] ".versions".toList :=
      .cons (.word (w := "versions".toList) (by decide) (wordChar_of_all (by decide))) .nil
    rw [read_eq_ok_iff_written, htrim]
    exact ⟨by decide, .inr ⟨by simp, by decide, hsentence⟩⟩
  have hq : read ".[ +1 ].\" \"\n" = .ok ⟨".[ +1 ].\" \"", [.index 1, .field " "]⟩ := by
    have htrim : Text.trim ".[ +1 ].\" \"\n".toList = ".[ +1 ].\" \"".toList := by decide
    have hnumeral : Numeral 1 " +1 ".toList := index?_eq_some_iff.1 (by decide)
    have hsentence : Sentence [.index 1, .field " "] ".[ +1 ].\" \"".toList :=
      .cons (.dottedIndex hnumeral) (.cons (.quoted (q := " ".toList) (by decide)) .nil)
    rw [read_eq_ok_iff_written, htrim]
    exact ⟨by decide, .inr ⟨by simp, by decide, hsentence⟩⟩
  exact ⟨hp, hq, by decide, by decide, selectors_compose hp hq (by decide) (by decide)⟩

/-- The single dot is no step in front of another dot, and none at the end. -/
example : pass "..a".toList = .error .emptyName ∧ pass ".".toList = .error .emptyName :=
  ⟨rfl, rfl⟩

end Selector

end RegistryProbe
