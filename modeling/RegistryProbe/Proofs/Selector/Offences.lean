import RegistryProbe.Proofs.Selector.Decomposition

/-! # Offences in selectors

  Where no further step can be completed, something offends. `Offence` lists what may offend and the
  reason that is told for it, without a reader. A reason depends on a beginning of what is left:
  either the offence ends somewhere, and then anything may follow, or it runs to the end of the
  text.

  - `Failed` lists what one pass fails at, beside `Passed` for what it takes: `pass_eq_error_iff`.
  - `Stalls` says that the passes fail before they complete a step. A dot in front of a bracket is
    dropped by a pass of its own, so they may fail one pass later.
  - The passes stall exactly where something offends, with its reason: `offence_of_stalls`,
    `stalls_of_offence`.
  - Where they stall they complete no step: `Stalls.not_leads`.
-/

namespace RegistryProbe.Selector

variable {t part rest behind : List Char} {s : Step} {f : Fault} {reason : String}

/-- What may offend in front of what is left of a text, with the reason that is told, and what
    follows it. -/
inductive Offence : String → List Char → List Char → Prop where
  /-- A name in quotes that does not end. -/
  | openQuote {q : List Char} (no_quote : '"' ∉ q) :
      Offence "unterminated quoted key" ('.' :: '"' :: q) []
  /-- A dot at the end. -/
  | dotAtEnd : Offence "empty key after `.`" ['.'] []
  /-- A dot in front of a character that neither a name nor an index begins with. -/
  | emptyName {c : Char} {rest : List Char} (not_quote : c ≠ '"') (not_bracket : c ≠ '[')
      (not_word : ¬ WordChar c) : Offence "empty key after `.`" ['.', c] rest
  /-- A bracket that does not end. -/
  | openBracket {dot inner : List Char} (dot_eq : dot = [] ∨ dot = ['.'])
      (no_bracket : ']' ∉ inner) : Offence "unterminated `[`" (dot ++ '[' :: inner) []
  /-- Brackets with something else than an index between them. -/
  | badIndex {dot inner rest : List Char} (dot_eq : dot = [] ∨ dot = ['.'])
      (no_bracket : ']' ∉ inner) (not_index : ∀ i, ¬ Numeral i inner) :
      Offence "array index must be a non-negative integer" (dot ++ '[' :: (inner ++ [']'])) rest
  /-- A character that no step begins with. -/
  | strayCharacter {c : Char} {rest : List Char} (not_dot : c ≠ '.') (not_bracket : c ≠ '[') :
      Offence "unexpected character in path" [c] rest

theorem Offence.ne_nil (h : Offence reason part rest) : part ≠ [] := by
  cases h with
  | openBracket | badIndex => exact List.append_ne_nil_of_right_ne_nil _ (List.cons_ne_nil _ _)
  | openQuote | dotAtEnd | emptyName | strayCharacter => exact List.cons_ne_nil _ _

/-! ### What a pass fails at -/

/-- What a pass over a text fails at. -/
inductive Failed : List Char → Fault → Prop where
  /-- A name in quotes that does not end. -/
  | openQuote {q : List Char} (no_quote : '"' ∉ q) : Failed ('.' :: '"' :: q) .openQuote
  /-- A dot that neither a name nor an index follows. -/
  | emptyName {t : List Char} (not_quote : t.head? ≠ some '"') (not_bracket : t.head? ≠ some '[')
      (ends : EndsWord t) : Failed ('.' :: t) .emptyName
  /-- A bracket that does not end. -/
  | openBracket {t : List Char} (no_bracket : ']' ∉ t) : Failed ('[' :: t) .openBracket
  /-- Brackets with something else than an index between them. -/
  | badIndex {inner rest : List Char} (no_bracket : ']' ∉ inner)
      (not_index : ∀ i, ¬ Numeral i inner) : Failed ('[' :: (inner ++ ']' :: rest)) .badIndex
  /-- A character that no step begins with, or none at all. -/
  | strayCharacter {t : List Char} (not_dot : t.head? ≠ some '.')
      (not_bracket : t.head? ≠ some '[') : Failed t .strayCharacter

theorem cut?_of_not_mem {mark : Char} (h : mark ∉ t) : cut? mark t = none := by
  match hcut : cut? mark t with
  | none => rfl
  | some (before, behind) =>
    obtain ⟨-, rfl⟩ := cut?_eq_some_iff.1 hcut
    simp at h

theorem index?_of_not_numeral (h : ∀ i, ¬ Numeral i t) : index? t = none := by
  match hindex : index? t with
  | none => rfl
  | some i => exact absurd (index?_eq_some_iff.1 hindex) (h i)

theorem pass_of_failed (h : Failed t f) : pass t = .error f := by
  cases h with
  | openQuote no_quote => simp [pass, cut?_of_not_mem no_quote]
  | emptyName not_quote not_bracket ends =>
    have hrun := takeWhile_eq_nil_iff_endsWord.2 ends
    rw [pass_dot_of_head_ne not_quote, if_neg (not_not_intro hrun), if_neg not_bracket]
  | openBracket no_bracket => simp [pass, cut?_of_not_mem no_bracket]
  | badIndex no_bracket not_index =>
    simp [pass, cut?_append_mark no_bracket, index?_of_not_numeral not_index]
  | strayCharacter not_dot not_bracket =>
    cases t with
    | nil => rfl
    | cons c t =>
      have hdot : c ≠ '.' := fun heq => not_dot (congrArg some heq)
      have hbracket : c ≠ '[' := fun heq => not_bracket (congrArg some heq)
      simp [pass, hdot, hbracket]

theorem passed_or_failed_at_dot (t : List Char) :
    (∃ s rest, Passed ('.' :: t) s rest) ∨ ∃ f, Failed ('.' :: t) f := by
  by_cases hquote : t.head? = some '"'
  · obtain ⟨quoted, rfl⟩ := List.head?_eq_some_iff.1 hquote
    by_cases hend : '"' ∈ quoted
    · obtain ⟨q, rest, rfl, hq⟩ := List.eq_append_cons_of_mem hend
      exact .inl ⟨_, rest, .quoted hq⟩
    · exact .inr ⟨_, .openQuote hend⟩
  · by_cases hbracket : t.head? = some '['
    · obtain ⟨rest, rfl⟩ := List.head?_eq_some_iff.1 hbracket
      exact .inl ⟨none, '[' :: rest, .dot⟩
    · by_cases hrun : t.takeWhile isWordChar = []
      · exact .inr ⟨_, .emptyName hquote hbracket (takeWhile_eq_nil_iff_endsWord.1 hrun)⟩
      · exact .inl ⟨_, _, passed_run hrun⟩

theorem passed_or_failed_at_bracket (t : List Char) :
    (∃ s rest, Passed ('[' :: t) s rest) ∨ ∃ f, Failed ('[' :: t) f := by
  by_cases hend : ']' ∈ t
  · obtain ⟨inner, rest, rfl, hinner⟩ := List.eq_append_cons_of_mem hend
    by_cases hindex : ∃ i, Numeral i inner
    · obtain ⟨i, hi⟩ := hindex
      exact .inl ⟨some (.index i), rest, .index hi⟩
    · exact .inr ⟨_, .badIndex hinner (not_exists.1 hindex)⟩
  · exact .inr ⟨_, .openBracket hend⟩

/-- A pass takes a piece or fails. -/
theorem passed_or_failed (t : List Char) : (∃ s rest, Passed t s rest) ∨ ∃ f, Failed t f := by
  by_cases hdot : t.head? = some '.'
  · obtain ⟨rest, rfl⟩ := List.head?_eq_some_iff.1 hdot
    exact passed_or_failed_at_dot rest
  · by_cases hbracket : t.head? = some '['
    · obtain ⟨rest, rfl⟩ := List.head?_eq_some_iff.1 hbracket
      exact passed_or_failed_at_bracket rest
    · exact .inr ⟨_, .strayCharacter hdot hbracket⟩

/-- A pass fails exactly at what the relation lists. -/
theorem pass_eq_error_iff : pass t = .error f ↔ Failed t f := by
  constructor
  · intro h
    rcases passed_or_failed t with ⟨s, rest, hpassed⟩ | ⟨f', hfailed⟩
    · cases h.symm.trans (pass_of_passed hpassed)
    · obtain rfl := Except.error.inj (h.symm.trans (pass_of_failed hfailed))
      exact hfailed
  · exact pass_of_failed

theorem Failed.not_passed {taken : Option Step} (h : Failed t f) : ¬ Passed t taken rest := by
  intro hpassed
  cases (pass_of_failed h).symm.trans (pass_of_passed hpassed)

/-! ### Failing before a step is completed -/

/-- The passes over a text fail before they complete a step: at once, or after they drop a dot. -/
def Stalls (t : List Char) (f : Fault) : Prop :=
  Failed t f ∨ ∃ behind, Passed t none behind ∧ Failed behind f

/-- Where the passes stall they complete no step. -/
theorem Stalls.not_leads (h : Stalls t f) : ¬ Leads t s rest := by
  intro hleads
  rcases h with hfailed | ⟨behind, hdot, hfailed⟩
  · rcases hleads with hpassed | ⟨behind, hdot, -⟩
    · exact hfailed.not_passed hpassed
    · exact hfailed.not_passed hdot
  · rcases hleads with hpassed | ⟨behind', hdot', hpassed⟩
    · cases (hdot.unique hpassed).1
    · obtain ⟨-, rfl⟩ := hdot.unique hdot'
      exact hfailed.not_passed hpassed

/-- Two dots are never dropped in a row. -/
theorem Passed.not_none_again (h : Passed t none rest) : ¬ Passed rest none behind := by
  intro h'
  cases h
  cases h'

/-! ### The passes stall exactly where something offends -/

theorem offence_of_failed_bracket {dot : List Char} (hdot : dot = [] ∨ dot = ['.'])
    (h : Failed ('[' :: t) f) :
    ∃ part rest, dot ++ '[' :: t = part ++ rest ∧ Offence f.message part rest := by
  cases h with
  | openBracket no_bracket =>
    exact ⟨_, [], (List.append_nil _).symm, .openBracket hdot no_bracket⟩
  | @badIndex inner rest no_bracket not_index =>
    exact ⟨_, rest, by simp, .badIndex hdot no_bracket not_index⟩
  | strayCharacter _ not_bracket => exact absurd rfl not_bracket

theorem offence_of_failed (h : Failed t f) (ht : t ≠ []) :
    ∃ part rest, t = part ++ rest ∧ Offence f.message part rest := by
  cases h with
  | openQuote no_quote => exact ⟨_, [], (List.append_nil _).symm, .openQuote no_quote⟩
  | @emptyName t not_quote not_bracket ends =>
    match t with
    | [] => exact ⟨_, [], (List.append_nil _).symm, .dotAtEnd⟩
    | c :: t =>
      have hquote : c ≠ '"' := fun heq => not_quote (congrArg some heq)
      have hbracket : c ≠ '[' := fun heq => not_bracket (congrArg some heq)
      exact ⟨['.', c], t, rfl, .emptyName hquote hbracket (ends c rfl)⟩
  | openBracket no_bracket => exact offence_of_failed_bracket (.inl rfl) (.openBracket no_bracket)
  | badIndex no_bracket not_index =>
    exact offence_of_failed_bracket (.inl rfl) (.badIndex no_bracket not_index)
  | strayCharacter not_dot not_bracket =>
    obtain ⟨c, t, rfl⟩ := List.exists_cons_of_ne_nil ht
    have hdot : c ≠ '.' := fun heq => not_dot (congrArg some heq)
    have hbracket : c ≠ '[' := fun heq => not_bracket (congrArg some heq)
    exact ⟨[c], t, rfl, .strayCharacter hdot hbracket⟩

theorem offence_of_stalls (h : Stalls t f) (ht : t ≠ []) :
    ∃ part rest, t = part ++ rest ∧ Offence f.message part rest := by
  rcases h with hfailed | ⟨behind, hdot, hfailed⟩
  · exact offence_of_failed hfailed ht
  · cases hdot with
    | dot => exact offence_of_failed_bracket (.inr rfl) hfailed

theorem stalls_of_failed_bracket {dot : List Char} (hdot : dot = [] ∨ dot = ['.'])
    (h : Failed ('[' :: t) f) : Stalls (dot ++ '[' :: t) f := by
  rcases hdot with rfl | rfl
  · exact .inl h
  · exact .inr ⟨_, .dot, h⟩

theorem stalls_of_offence (h : Offence reason part rest) :
    ∃ f, f.message = reason ∧ Stalls (part ++ rest) f := by
  cases h with
  | openQuote no_quote =>
    rw [List.append_nil]
    exact ⟨.openQuote, rfl, .inl (.openQuote no_quote)⟩
  | dotAtEnd => exact ⟨.emptyName, rfl, .inl (.emptyName (by simp) (by simp) (by simp [EndsWord]))⟩
  | @emptyName c rest not_quote not_bracket not_word =>
    refine ⟨.emptyName, rfl, .inl (.emptyName ?_ ?_ ?_)⟩
    · exact fun heq => not_quote (Option.some.inj heq)
    · exact fun heq => not_bracket (Option.some.inj heq)
    · intro c' hc'
      obtain rfl := Option.some.inj hc'
      exact not_word
  | openBracket dot_eq no_bracket =>
    rw [List.append_nil]
    exact ⟨.openBracket, rfl, stalls_of_failed_bracket dot_eq (.openBracket no_bracket)⟩
  | @badIndex dot inner rest dot_eq no_bracket not_index =>
    have hstalls : Stalls (dot ++ '[' :: (inner ++ ']' :: rest)) .badIndex :=
      stalls_of_failed_bracket dot_eq (.badIndex no_bracket not_index)
    exact ⟨.badIndex, rfl, by simpa using hstalls⟩
  | strayCharacter not_dot not_bracket =>
    refine ⟨.strayCharacter, rfl, .inl (.strayCharacter ?_ ?_)⟩
    · exact fun heq => not_dot (Option.some.inj heq)
    · exact fun heq => not_bracket (Option.some.inj heq)

end RegistryProbe.Selector
