import RegistryProbe.Proofs.Results
import RegistryProbe.Proofs.Selector.Passes

/-! # Decomposing selectors

  A text that is read as a selector falls into pieces, one for each step. `Decomposition` relates
  the pieces to the text; a word in it goes as far as it can.

  - The reader finds the decompositions: `scan_eq_ok_iff`.
  - The texts that have one are the sentences of the grammar: `sentence_iff_exists_decomposition`.
  - A text has one decomposition at most: `Decomposition.unique`. Pieces are found one after the
    other, and the text alone determines each: `Leads.unique`.
-/

namespace RegistryProbe.Selector

/-- A piece that is a word stops where no word character follows; other pieces may stop
    anywhere. -/
def Stops (piece rest : List Char) : Prop :=
  ∀ w, piece = '.' :: w → (∀ c ∈ w, WordChar c) → EndsWord rest

/-- The pieces of a text, each with the step that it spells. -/
inductive Decomposition : List (Step × List Char) → List Char → Prop where
  /-- No piece. -/
  | nil : Decomposition [] []
  /-- A piece in front of others. -/
  | cons {s : Step} {piece : List Char} {parts : List (Step × List Char)} {rest : List Char}
      (first : Spelling s piece) (maximal : Stops piece rest)
      (others : Decomposition parts rest) :
      Decomposition ((s, piece) :: parts) (piece ++ rest)

/-! ### The piece in front -/

/-- The passes over the text find the step first, in front of the rest: at once, or after they
    drop a dot. -/
def Leads (t : List Char) (s : Step) (rest : List Char) : Prop :=
  Passed t (some s) rest ∨ ∃ behind, Passed t none behind ∧ Passed behind (some s) rest

theorem stops_of_not_word {c : Char} {w rest : List Char} (h : ¬ WordChar c) :
    Stops ('.' :: c :: w) rest := by
  intro v heq hv
  cases heq
  exact absurd (hv c List.mem_cons_self) h

theorem stops_bracket {w rest : List Char} : Stops ('[' :: w) rest := by
  intro v heq
  cases heq

/-- A piece that stops is what the passes find. -/
theorem leads_of_spelling {s : Step} {piece rest : List Char} (h : Spelling s piece)
    (hstop : Stops piece rest) : Leads (piece ++ rest) s rest := by
  cases h with
  | quoted no_quote =>
    left
    simpa using Passed.quoted no_quote
  | word w_ne w_chars =>
    left
    exact .word w_ne w_chars (hstop _ rfl w_chars)
  | index numeral =>
    left
    simpa using Passed.index numeral
  | dottedIndex numeral =>
    right
    refine ⟨_, .dot, ?_⟩
    simpa using Passed.index numeral

theorem Leads.unique {t rest rest' : List Char} {s s' : Step} (h : Leads t s rest)
    (h' : Leads t s' rest') : s = s' ∧ rest = rest' := by
  rcases h with h | ⟨u, hu, h⟩
  · rcases h' with h' | ⟨u', hu', h'⟩
    · obtain ⟨hs, hrest⟩ := h.unique h'
      exact ⟨Option.some.inj hs, hrest⟩
    · cases (h.unique hu').1
  · rcases h' with h' | ⟨u', hu', h'⟩
    · cases (hu.unique h').1
    · -- both dropped the dot, so they go on from the same text
      obtain ⟨-, rfl⟩ := hu.unique hu'
      obtain ⟨hs, hrest⟩ := h.unique h'
      exact ⟨Option.some.inj hs, hrest⟩

/-! ### One decomposition at most -/

theorem Spelling.ne_nil {s : Step} {piece : List Char} (h : Spelling s piece) : piece ≠ [] := by
  cases h <;> exact List.cons_ne_nil _ _

/-- A text has one decomposition at most. -/
theorem Decomposition.unique {t : List Char} {parts parts' : List (Step × List Char)}
    (h : Decomposition parts t) (h' : Decomposition parts' t) : parts = parts' := by
  -- induction along the one decomposition, piece by piece against the other
  induction h generalizing parts' with
  | nil =>
    generalize ht : ([] : List Char) = t at h'
    cases h' with
    | nil => rfl
    | cons first =>
      exact absurd (List.append_eq_nil_iff.1 ht.symm).1 first.ne_nil
  | @cons s piece parts rest first maximal _ ih =>
    generalize ht : piece ++ rest = t at h'
    cases h' with
    | nil => exact absurd (List.append_eq_nil_iff.1 ht).1 first.ne_nil
    | @cons s' piece' parts' rest' first' maximal' others' =>
      -- the text determines the first piece of both, and so the rest
      have hlead := leads_of_spelling first maximal
      have hlead' := leads_of_spelling first' maximal'
      rw [← ht] at hlead'
      obtain ⟨rfl, rfl⟩ := hlead.unique hlead'
      obtain rfl := List.append_cancel_right ht
      rw [ih others']

theorem not_decomposition_dot (parts : List (Step × List Char)) : ¬ Decomposition parts ['.'] := by
  intro h
  generalize ht : ['.'] = t at h
  cases h with
  | nil => cases ht
  | cons first maximal =>
    have hlead := leads_of_spelling first maximal
    rw [← ht] at hlead
    -- no pass succeeds at a single dot
    rcases hlead with h | ⟨_, h, -⟩
    · cases pass_of_passed h
    · cases pass_of_passed h

/-! ### Sentences

  A piece begins with a dot or a bracket, which no word goes on with. So the words of a sentence
  stop by themselves.
-/

theorem Spelling.endsWord {s : Step} {piece : List Char} (h : Spelling s piece)
    (rest : List Char) : EndsWord (piece ++ rest) := by
  have hdot : ¬ WordChar '.' := by decide
  have hbracket : ¬ WordChar '[' := by decide
  intro c hc
  cases h <;> cases hc <;> assumption

theorem Sentence.endsWord {steps : List Step} {t : List Char} (h : Sentence steps t) :
    EndsWord t := by
  cases h with
  | nil =>
    intro c hc
    cases hc
  | cons first => exact first.endsWord _

theorem sentence_iff_exists_decomposition {steps : List Step} {t : List Char} :
    Sentence steps t ↔ ∃ parts, Decomposition parts t ∧ parts.map Prod.fst = steps := by
  constructor
  · intro h
    induction h with
    | nil => exact ⟨[], .nil, rfl⟩
    | cons first others ih =>
      -- what follows a piece is a sentence again, which no word goes on into
      obtain ⟨parts, hparts, rfl⟩ := ih
      exact ⟨_, .cons first (fun _ _ _ => others.endsWord) hparts, rfl⟩
  · intro h'
    obtain ⟨parts, h, rfl⟩ := h'
    induction h with
    | nil => exact .nil
    | cons first _ _ ih => exact .cons first ih

/-! ### The reader finds the decomposition -/

theorem scan_nil : scan [] = .ok [] := by
  rw [scan, if_pos rfl]

theorem scan_of_passed {t rest : List Char} {s : Option Step} (h : Passed t s rest) :
    scan t = (scan rest).map (s.toList ++ ·) := by
  have hpass := pass_of_passed h
  rw [scan, if_neg h.ne_nil]
  split
  next heq => cases hpass.symm.trans heq
  next heq =>
    cases hpass.symm.trans heq
    rfl

theorem scan_of_leads {t rest : List Char} {s : Step} (h : Leads t s rest) :
    scan t = (scan rest).map (s :: ·) := by
  rcases h with h | ⟨behind, hdot, h⟩
  · exact scan_of_passed h
  · rw [scan_of_passed hdot, scan_of_passed h]
    cases scan rest <;> rfl

theorem scan_of_decomposition {t : List Char} {parts : List (Step × List Char)}
    (h : Decomposition parts t) : scan t = .ok (parts.map Prod.fst) := by
  induction h with
  | nil => exact scan_nil
  | cons first maximal _ ih =>
    rw [scan_of_leads (leads_of_spelling first maximal), ih]
    rfl

/-- A dot may stand in front of a text that begins with a bracket. -/
theorem Decomposition.dotted {t : List Char} {parts : List (Step × List Char)}
    (h : Decomposition parts ('[' :: t)) :
    ∃ parts', Decomposition parts' ('.' :: '[' :: t) ∧
      parts'.map Prod.fst = parts.map Prod.fst := by
  generalize ht : '[' :: t = u at h
  cases h with
  | nil => cases ht
  | @cons s piece parts rest first maximal others =>
    -- only an index begins with a bracket
    cases first with
    | quoted => cases ht
    | word => cases ht
    | dottedIndex => cases ht
    | @index i n numeral =>
      have hword : ¬ WordChar '[' := by decide
      refine ⟨_, .cons (.dottedIndex numeral) (stops_of_not_word hword) others, rfl⟩

theorem exists_decomposition_of_scan {t : List Char} {steps : List Step}
    (h : scan t = .ok steps) : ∃ parts, Decomposition parts t ∧ parts.map Prod.fst = steps := by
  fun_induction scan t generalizing steps with
  | case1 =>
    cases h
    exact ⟨[], .nil, rfl⟩
  | case2 => cases h
  | case3 t _ s rest hpass ih =>
    -- a pass makes a piece, and a pass that drops a dot lengthens the next one
    obtain ⟨steps, hsteps, rfl⟩ := ok_map_iff.1 h
    obtain ⟨parts, hparts, rfl⟩ := ih hsteps
    have hquote : ¬ WordChar '"' := by decide
    cases passed_of_pass hpass with
    | @quoted q _ no_quote =>
      have := Decomposition.cons (.quoted no_quote) (stops_of_not_word hquote) hparts
      exact ⟨_, by simpa using this, rfl⟩
    | word w_ne w_chars w_ends =>
      exact ⟨_, .cons (.word w_ne w_chars) (fun _ _ _ => w_ends) hparts, rfl⟩
    | index numeral =>
      have := Decomposition.cons (.index numeral) stops_bracket hparts
      exact ⟨_, by simpa using this, rfl⟩
    | dot => exact hparts.dotted

/-- The reader finds the steps of a text exactly where the text has a decomposition into them. -/
theorem scan_eq_ok_iff {t : List Char} {steps : List Step} :
    scan t = .ok steps ↔ ∃ parts, Decomposition parts t ∧ parts.map Prod.fst = steps := by
  constructor
  · exact exists_decomposition_of_scan
  · intro h
    obtain ⟨parts, hparts, rfl⟩ := h
    exact scan_of_decomposition hparts

/-! ### Selectors -/

theorem Decomposition.ne_nil {parts : List (Step × List Char)} {t : List Char}
    (h : Decomposition parts t) (ht : t ≠ []) : parts ≠ [] := by
  intro h'
  subst h'
  cases h
  exact ht rfl

theorem read_of_head_ne {expression : String}
    (h : (Text.trim expression.toList).head? ≠ some '.') :
    read expression = .error .noLeadingDot :=
  if_pos h

theorem read_of_dot {expression : String} (h : Text.trim expression.toList = ['.']) :
    read expression = .ok ⟨String.ofList (Text.trim expression.toList), []⟩ := by
  have hhead : (Text.trim expression.toList).head? = some '.' := by rw [h, List.head?_cons]
  exact (if_neg (not_not_intro hhead)).trans (if_pos h)

theorem read_of_head {expression : String}
    (hhead : (Text.trim expression.toList).head? = some '.')
    (hdot : Text.trim expression.toList ≠ ['.']) :
    read expression =
      (scan (Text.trim expression.toList)).map
        (⟨String.ofList (Text.trim expression.toList), ·⟩) :=
  (if_neg (not_not_intro hhead)).trans (if_neg hdot)

theorem scan_eq_ok_iff_sentence {t : List Char} {steps : List Step} :
    scan t = .ok steps ↔ Sentence steps t :=
  scan_eq_ok_iff.trans sentence_iff_exists_decomposition.symm

theorem not_sentence_dot (steps : List Step) : ¬ Sentence steps ['.'] := by
  intro h
  obtain ⟨parts, hparts, -⟩ := sentence_iff_exists_decomposition.1 h
  exact not_decomposition_dot parts hparts

/-- What is read, in terms of the passes over the text without surrounding blanks. -/
theorem read_eq_ok_iff_scan {expression : String} {sel : Selector} :
    read expression = .ok sel ↔
      sel.text = String.ofList (Text.trim expression.toList) ∧
        ((Text.trim expression.toList = ['.'] ∧ sel.steps = []) ∨
          ((Text.trim expression.toList).head? = some '.' ∧
            Text.trim expression.toList ≠ ['.'] ∧
            scan (Text.trim expression.toList) = .ok sel.steps)) := by
  obtain ⟨text, steps⟩ := sel
  by_cases hdot : Text.trim expression.toList = ['.']
  · rw [read_of_dot hdot]
    simp [hdot, eq_comm]
  · by_cases hhead : (Text.trim expression.toList).head? = some '.'
    · rw [read_of_head hhead hdot, ok_map_iff]
      constructor
      · intro h
        obtain ⟨_, hscan, heq⟩ := h
        cases heq
        exact ⟨rfl, .inr ⟨hhead, hdot, hscan⟩⟩
      · intro h
        obtain ⟨htext, ⟨hsingle, -⟩ | ⟨-, -, hscan⟩⟩ := h
        · exact absurd hsingle hdot
        · subst htext
          exact ⟨steps, hscan, rfl⟩
    · rw [read_of_head_ne hhead]
      simp [hhead, hdot]

/-- What is refused, in the same terms. -/
theorem read_eq_error_iff_scan {expression : String} {f : Fault} :
    read expression = .error f ↔
      ((Text.trim expression.toList).head? ≠ some '.' ∧ f = .noLeadingDot) ∨
        ((Text.trim expression.toList).head? = some '.' ∧
          Text.trim expression.toList ≠ ['.'] ∧
          scan (Text.trim expression.toList) = .error f) := by
  by_cases hdot : Text.trim expression.toList = ['.']
  · rw [read_of_dot hdot]
    simp [hdot]
  · by_cases hhead : (Text.trim expression.toList).head? = some '.'
    · rw [read_of_head hhead hdot, error_map_iff]
      simp [hhead, hdot]
    · rw [read_of_head_ne hhead]
      simp [hhead, eq_comm]

/-- The reader accepts a text with a list of steps exactly if the text without surrounding blanks
    is a single dot, for no step, or falls into pieces for these steps, one at least, and begins
    with a dot. Whether the text falls into pieces, and into which, is never ambiguous. -/
theorem read_ok_iff_decomposition (expression : String) :
    (∀ steps, (∃ sel, read expression = .ok sel ∧ sel.steps = steps) ↔
      (Text.trim expression.toList = ['.'] ∧ steps = []) ∨
        ∃ parts, parts ≠ [] ∧ (Text.trim expression.toList).head? = some '.' ∧
          Decomposition parts (Text.trim expression.toList) ∧ parts.map Prod.fst = steps) ∧
    (∀ t parts parts', Decomposition parts t ∧ Decomposition parts' t → parts = parts') ∧
    ∀ parts, ¬ Decomposition parts ['.'] := by
  refine ⟨?_, fun _ _ _ h => h.1.unique h.2, not_decomposition_dot⟩
  intro steps
  by_cases hhead : (Text.trim expression.toList).head? = some '.'
  · by_cases hdot : Text.trim expression.toList = ['.']
    · rw [read_of_dot hdot]
      constructor
      · intro h'
        obtain ⟨sel, hsel, rfl⟩ := h'
        cases hsel
        exact .inl ⟨hdot, rfl⟩
      · intro h'
        rcases h' with ⟨-, rfl⟩ | ⟨parts, -, -, hparts, -⟩
        · exact ⟨_, rfl, rfl⟩
        · rw [hdot] at hparts
          exact absurd hparts (not_decomposition_dot parts)
    · rw [read_of_head hhead hdot]
      have hne : Text.trim expression.toList ≠ [] := by
        intro hnil
        rw [hnil] at hhead
        cases hhead
      constructor
      · intro h'
        obtain ⟨sel, hsel, rfl⟩ := h'
        obtain ⟨steps, hscan, rfl⟩ := ok_map_iff.1 hsel
        obtain ⟨parts, hparts, hsteps⟩ := scan_eq_ok_iff.1 hscan
        exact .inr ⟨parts, hparts.ne_nil hne, hhead, hparts, hsteps⟩
      · intro h'
        rcases h' with ⟨h, -⟩ | ⟨parts, -, -, hparts, rfl⟩
        · exact absurd h hdot
        · rw [scan_of_decomposition hparts]
          exact ⟨_, rfl, rfl⟩
  · -- without a dot in front neither side holds
    rw [read_of_head_ne hhead]
    constructor
    · intro h'
      obtain ⟨sel, hsel, -⟩ := h'
      cases hsel
    · intro h'
      rcases h' with ⟨hdot, -⟩ | ⟨_, -, h, -⟩
      · rw [hdot, List.head?_cons] at hhead
        exact absurd rfl hhead
      · exact absurd h hhead

end RegistryProbe.Selector
