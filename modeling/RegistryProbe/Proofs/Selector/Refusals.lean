import RegistryProbe.Expectation
import RegistryProbe.Proofs.Selector.Offences

/-! # Why a selector is refused

  A text that is no selector is refused for its leftmost offence. In front of it stand whole steps,
  as many as there can be, and what stands behind it has no say.

  - `Reads` says that the passes complete steps one after the other and what they leave. A refusal
    is a reading that stalls: `exists_reads_of_scan`, `scan_of_stalls`.
  - What has been read is the longest beginning of the text that is steps in a row:
    `Reads.longestSteps`. Another beginning may end within a word, and then no step follows it.
  - How the passes read up to an offence does not depend on what follows: `Reads.exchange`.
-/

namespace RegistryProbe.Selector

variable {t u w piece part rest left left' : List Char} {s : Step} {steps more : List Step}
  {f : Fault} {reason expression : String}

/-! ### Steps in a row -/

/-- The passes over a text complete steps one after the other and leave the rest. -/
inductive Reads : List Step → List Char → List Char → Prop where
  /-- No step, and the whole text is left. -/
  | done (t : List Char) : Reads [] t t
  /-- A step in front of others. -/
  | step {s : Step} {steps : List Step} {t rest left : List Char} (first : Leads t s rest)
      (others : Reads steps rest left) : Reads (s :: steps) t left

/-- What the passes complete first is a piece of the text that stops where they go on. -/
theorem exists_piece_of_leads (h : Leads t s rest) :
    ∃ piece, Spelling s piece ∧ Stops piece rest ∧ t = piece ++ rest := by
  have hquote : ¬ WordChar '"' := by decide
  have hbracket : ¬ WordChar '[' := by decide
  rcases h with hpassed | ⟨behind, hdot, hpassed⟩
  · cases hpassed with
    | quoted no_quote => exact ⟨_, .quoted no_quote, stops_of_not_word hquote, by simp⟩
    | word w_ne w_chars w_ends => exact ⟨_, .word w_ne w_chars, fun _ _ _ => w_ends, by simp⟩
    | index numeral => exact ⟨_, .index numeral, stops_bracket, by simp⟩
  · -- only an index is completed behind a dot that was dropped
    cases hdot with
    | dot =>
      generalize hbehind : '[' :: _ = behind at hpassed
      cases hpassed with
      | quoted => cases hbehind
      | word => cases hbehind
      | index numeral =>
        exact ⟨_, .dottedIndex numeral, stops_of_not_word hbracket, by simp⟩

theorem Reads.exists_sentence (h : Reads steps t left) : ∃ u, t = u ++ left ∧ Sentence steps u := by
  induction h with
  | done t => exact ⟨[], rfl, .nil⟩
  | step first others ih =>
    obtain ⟨piece, hpiece, -, rfl⟩ := exists_piece_of_leads first
    obtain ⟨u, rfl, hu⟩ := ih
    exact ⟨piece ++ u, (List.append_assoc _ _ _).symm, .cons hpiece hu⟩

theorem scan_of_reads (h : Reads steps t left) :
    scan t = (scan left).map (steps ++ ·) := by
  induction h with
  | done t => cases scan t <;> rfl
  | @step s steps t rest left first others ih =>
    rw [scan_of_leads first, ih]
    cases scan left <;> rfl

theorem scan_of_failed (h : Failed t f) (ht : t ≠ []) : scan t = .error f := by
  have hpass := pass_of_failed h
  rw [scan, if_neg ht]
  split
  next heq =>
    cases heq.symm.trans hpass
    rfl
  next heq => cases heq.symm.trans hpass

theorem scan_of_stalls (h : Stalls t f) (ht : t ≠ []) : scan t = .error f := by
  rcases h with hfailed | ⟨behind, hdot, hfailed⟩
  · exact scan_of_failed hfailed ht
  · have hne : behind ≠ [] := by
      cases hdot
      exact List.cons_ne_nil _ _
    rw [scan_of_passed hdot, scan_of_failed hfailed hne]
    rfl

/-- A reading that is refused completes steps and then stalls. -/
theorem exists_reads_of_scan (h : scan t = .error f) :
    ∃ steps left, Reads steps t left ∧ left ≠ [] ∧ Stalls left f := by
  fun_induction scan t with
  | case1 => cases h
  | case2 t hne f' hpass =>
    obtain rfl := Except.error.inj h
    exact ⟨[], t, .done t, hne, .inl (pass_eq_error_iff.1 hpass)⟩
  | case3 t hne s rest hpass ih =>
    obtain ⟨steps, left, hreads, hleft, hstalls⟩ := ih (error_map_iff.1 h)
    have hpassed : Passed t s rest := passed_of_pass hpass
    cases s with
    | some s => exact ⟨s :: steps, left, .step (.inl hpassed) hreads, hleft, hstalls⟩
    | none =>
      -- a dropped dot belongs to the step behind it, or to what offends there
      cases hreads with
      | done =>
        rcases hstalls with hfailed | ⟨behind, hdot, -⟩
        · exact ⟨[], t, .done t, hne, .inr ⟨rest, hpassed, hfailed⟩⟩
        · exact absurd hdot hpassed.not_none_again
      | step first others =>
        rcases first with hfirst | ⟨behind, hdot, -⟩
        · exact ⟨_, left, .step (.inr ⟨rest, hpassed, hfirst⟩) others, hleft, hstalls⟩
        · exact absurd hdot hpassed.not_none_again

/-! ### The longest beginning -/

/-- A written form leads on from where it stands, though the step that is completed there may be a
    longer word. -/
theorem exists_leads_of_spelling (h : Spelling s piece) (rest : List Char) :
    ∃ s' rest', Leads (piece ++ rest) s' rest' ∧ rest'.length ≤ rest.length ∧
      (EndsWord rest → rest' = rest) := by
  cases h with
  | @word w w_ne w_chars =>
    -- the word goes on as far as word characters follow
    have hrun : (w ++ rest).takeWhile isWordChar ≠ [] := by
      rw [List.takeWhile_append_of_pos (isWordChar_of_mem w_chars)]
      exact List.append_ne_nil_of_left_ne_nil w_ne _
    have hpassed := passed_run hrun
    rw [List.dropWhile_append_of_pos (isWordChar_of_mem w_chars)] at hpassed
    refine ⟨_, rest.dropWhile isWordChar, .inl hpassed, ?_, dropWhile_of_endsWord⟩
    exact (List.dropWhile_sublist isWordChar).length_le
  | @quoted q no_quote =>
    have hquote : ¬ WordChar '"' := by decide
    have hstop : Stops ('.' :: '"' :: (q ++ ['"'])) rest := stops_of_not_word hquote
    exact ⟨_, rest, leads_of_spelling (.quoted no_quote) hstop, Nat.le_refl _, fun _ => rfl⟩
  | @index i n numeral =>
    have hstop : Stops ('[' :: (n ++ [']'])) rest := stops_bracket
    exact ⟨_, rest, leads_of_spelling (.index numeral) hstop, Nat.le_refl _, fun _ => rfl⟩
  | @dottedIndex i n numeral =>
    have hbracket : ¬ WordChar '[' := by decide
    have hstop : Stops ('.' :: '[' :: (n ++ [']'])) rest := stops_of_not_word hbracket
    exact ⟨_, rest, leads_of_spelling (.dottedIndex numeral) hstop, Nat.le_refl _, fun _ => rfl⟩

/-- No steps in a row reach farther than the passes do. -/
theorem Reads.length_le (h : Reads steps t left) (hstalls : Stalls left f)
    (hw : Sentence more w) {z : List Char} (ht : t = w ++ z) : left.length ≤ z.length := by
  -- induction along the reading, step by step against the other steps
  induction h generalizing more w with
  | done t =>
    cases hw with
    | nil => simp [ht]
    | @cons s piece more w first others =>
      -- a step in front of what is left would be completed
      rw [List.append_assoc] at ht
      obtain ⟨s', rest', hleads, -⟩ := exists_leads_of_spelling first (w ++ z)
      rw [← ht] at hleads
      exact absurd hleads hstalls.not_leads
  | @step s steps t rest left first others ih =>
    obtain ⟨u, hu, -⟩ := others.exists_sentence
    have hleft : left.length ≤ rest.length := by simp [hu]
    cases hw with
    | nil =>
      obtain ⟨piece, -, -, hpiece⟩ := exists_piece_of_leads first
      rw [List.nil_append, hpiece] at ht
      rw [← ht, List.length_append]
      omega
    | @cons s' piece more w first' others' =>
      rw [List.append_assoc] at ht
      obtain ⟨s'', rest', hleads, hle, hends⟩ := exists_leads_of_spelling first' (w ++ z)
      rw [← ht] at hleads
      obtain ⟨-, rfl⟩ := first.unique hleads
      cases others' with
      | nil =>
        rw [List.nil_append] at hle
        omega
      | cons second others' =>
        -- the next step begins with no word character, so both go on from one place
        have heq := hends (by rw [List.append_assoc]; exact second.endsWord _)
        exact ih hstalls (.cons second others') heq

/-- The longest beginning of a text that is steps in a row. -/
structure LongestSteps (u t : List Char) : Prop where
  /-- It is a beginning of the text. -/
  begins : u <+: t
  /-- It is steps in a row, possibly none. -/
  sentence : ∃ steps, Sentence steps u
  /-- No other beginning of this kind is longer. -/
  longest : ∀ w, w <+: t → (∃ steps, Sentence steps w) → w.length ≤ u.length

theorem LongestSteps.unique (h : LongestSteps u t) (h' : LongestSteps w t) : u = w := by
  have hle : u.length ≤ w.length := h'.longest u h.begins h.sentence
  have hge : w.length ≤ u.length := h.longest w h'.begins h'.sentence
  have hbegins : u <+: w := List.prefix_of_prefix_length_le h.begins h'.begins hle
  exact hbegins.eq_of_length (Nat.le_antisymm hle hge)

/-- What has been read where the passes stall is the longest beginning that is steps in a row. -/
theorem Reads.longestSteps (h : Reads steps (u ++ left) left) (hstalls : Stalls left f) :
    LongestSteps u (u ++ left) := by
  obtain ⟨u', heq, hu⟩ := h.exists_sentence
  obtain rfl := List.append_cancel_right heq
  refine ⟨List.prefix_append u left, ⟨steps, hu⟩, ?_⟩
  intro w hbegins hw
  obtain ⟨more, hw⟩ := hw
  obtain ⟨z, hz⟩ := hbegins
  have hle : left.length ≤ z.length := h.length_le hstalls hw hz.symm
  have hlength : w.length + z.length = u.length + left.length := by
    rw [← List.length_append, ← List.length_append, hz]
  omega

/-! ### What stands behind an offence -/

theorem Stops.congr (h : Stops piece rest) {rest' : List Char}
    (hhead : rest.head? = rest'.head?) : Stops piece rest' := by
  intro w hw hchars c hc
  rw [← hhead] at hc
  exact h w hw hchars c hc

/-- The passes read up to a place in the same way whatever follows the character there. -/
theorem Reads.exchange (h : Reads steps t left) (hhead : left.head? = left'.head?)
    (ht : t = u ++ left) : Reads steps (u ++ left') left' := by
  induction h generalizing u with
  | done t =>
    have hnil : u = [] := List.self_eq_append_left.1 ht
    rw [hnil]
    exact .done left'
  | @step s steps t rest left first others ih =>
    obtain ⟨piece, hpiece, hstop, rfl⟩ := exists_piece_of_leads first
    obtain ⟨v, rfl, -⟩ := others.exists_sentence
    rw [← List.append_assoc] at ht
    obtain rfl := List.append_cancel_right ht
    have hstop' : Stops piece (v ++ left') :=
      hstop.congr (by rw [List.head?_append, List.head?_append, hhead])
    rw [List.append_assoc]
    exact .step (leads_of_spelling hpiece hstop') (ih hhead rfl)

/-! ### Refusals -/

/-- What offends first in a text: it stands behind the longest beginning that is steps in a row. -/
structure Leftmost (reason : String) (t done part rest : List Char) : Prop where
  /-- The text falls into the steps, what offends and what follows it. -/
  text_eq : t = done ++ (part ++ rest)
  /-- There are as many steps as there can be. -/
  longest : LongestSteps done t
  /-- The reason is one for the part that offends. -/
  offence : Offence reason part rest

variable {done : List Char}

/-- Up to what offends first the passes read, and there they stall. -/
theorem exists_reads_of_leftmost (h : Leftmost reason t done part rest) :
    ∃ f steps, f.message = reason ∧ Reads steps t (part ++ rest) ∧ Stalls (part ++ rest) f := by
  obtain ⟨f, hreason, hstalls⟩ := stalls_of_offence h.offence
  have hpart : part ++ rest ≠ [] := List.append_ne_nil_of_left_ne_nil h.offence.ne_nil rest
  match hscan : scan t with
  | .ok steps =>
    -- the whole text would be steps in a row
    have hsentence : Sentence steps t := scan_eq_ok_iff_sentence.1 hscan
    have hle : t.length ≤ done.length :=
      h.longest.longest t (List.prefix_refl t) ⟨steps, hsentence⟩
    have hlength : t.length = done.length + (part ++ rest).length := by
      rw [← List.length_append, ← h.text_eq]
    have hpos : 0 < (part ++ rest).length := List.length_pos_iff.2 hpart
    omega
  | .error f' =>
    obtain ⟨steps, left, hreads, hleft, hstalls'⟩ := exists_reads_of_scan hscan
    obtain ⟨u, hu, -⟩ := hreads.exists_sentence
    have hlongest : LongestSteps u t := by
      rw [hu] at hreads ⊢
      exact hreads.longestSteps hstalls'
    obtain rfl := h.longest.unique hlongest
    have hsame : part ++ rest = left := List.append_cancel_left (h.text_eq.symm.trans hu)
    rw [hsame] at hstalls ⊢
    exact ⟨f, steps, hreason, hreads, hstalls⟩

theorem scan_of_leftmost (h : Leftmost reason t done part rest) :
    ∃ f, f.message = reason ∧ scan t = .error f := by
  obtain ⟨f, steps, hreason, hreads, hstalls⟩ := exists_reads_of_leftmost h
  have hpart : part ++ rest ≠ [] := List.append_ne_nil_of_left_ne_nil h.offence.ne_nil rest
  refine ⟨f, hreason, ?_⟩
  rw [scan_of_reads hreads, scan_of_stalls hstalls hpart]
  rfl

theorem exists_leftmost_of_scan (h : scan t = .error f) :
    ∃ done part rest, Leftmost f.message t done part rest := by
  obtain ⟨steps, left, hreads, hleft, hstalls⟩ := exists_reads_of_scan h
  obtain ⟨u, rfl, -⟩ := hreads.exists_sentence
  obtain ⟨part, rest, rfl, hoffence⟩ := offence_of_stalls hstalls hleft
  exact ⟨u, part, rest, rfl, hreads.longestSteps hstalls, hoffence⟩

/-- What offends first still does so when other things follow it. -/
theorem Leftmost.exchange (h : Leftmost reason t done part rest) {rest' : List Char}
    (h' : Offence reason part rest') :
    Leftmost reason (done ++ (part ++ rest')) done part rest' := by
  obtain ⟨f, steps, -, hreads, -⟩ := exists_reads_of_leftmost h
  obtain ⟨f', -, hstalls'⟩ := stalls_of_offence h'
  obtain ⟨c, v, hpart⟩ := List.exists_cons_of_ne_nil h.offence.ne_nil
  have hhead : (part ++ rest).head? = (part ++ rest').head? := by rw [hpart]; rfl
  exact ⟨rfl, (hreads.exchange hhead h.text_eq).longestSteps hstalls', h'⟩

/-- A dot alone offends only at the end of a text. -/
theorem Offence.rest_of_dot (h : Offence reason part rest) (hpart : part = ['.']) : rest = [] := by
  cases h with
  | openQuote | dotAtEnd | openBracket => rfl
  | emptyName => cases hpart
  | badIndex dot_eq =>
    rcases dot_eq with rfl | rfl
    · cases hpart
    · cases hpart
  | strayCharacter not_dot => exact absurd (List.cons.inj hpart).1 not_dot

/-- Why a text without blanks around it is refused. -/
inductive Refused : String → List Char → Prop where
  /-- It does not begin with a dot. -/
  | noLeadingDot {t : List Char} (no_dot : t.head? ≠ some '.') :
      Refused "path must start with `.`" t
  /-- It begins with a dot, is not the single dot, and something offends in it. -/
  | leftmost {reason : String} {t done part rest : List Char} (dot : t.head? = some '.')
      (not_single : t ≠ ['.']) (first : Leftmost reason t done part rest) : Refused reason t

theorem read_eq_error_iff :
    (∃ f, read expression = .error f ∧ f.message = reason) ↔
      Refused reason (Text.trim expression.toList) := by
  constructor
  · intro h
    obtain ⟨f, hread, rfl⟩ := h
    rcases read_eq_error_iff_scan.1 hread with ⟨hno_dot, rfl⟩ | ⟨hdot, hsingle, hscan⟩
    · exact .noLeadingDot hno_dot
    · obtain ⟨done, part, rest, hfirst⟩ := exists_leftmost_of_scan hscan
      exact .leftmost hdot hsingle hfirst
  · intro h
    cases h with
    | noLeadingDot no_dot => exact ⟨_, read_eq_error_iff_scan.2 (.inl ⟨no_dot, rfl⟩), rfl⟩
    | leftmost dot not_single first =>
      obtain ⟨f, hreason, hscan⟩ := scan_of_leftmost first
      exact ⟨f, read_eq_error_iff_scan.2 (.inr ⟨dot, not_single, hscan⟩), hreason⟩

/-- In the single dot the dot itself offends. -/
theorem Leftmost.of_single (h : Leftmost reason ['.'] done part rest) :
    done = [] ∧ part = ['.'] := by
  have hpos : 0 < part.length := List.length_pos_iff.2 h.offence.ne_nil
  have hlength := congrArg List.length h.text_eq
  rw [List.length_append, List.length_append, List.length_singleton] at hlength
  have hdone : done = [] := List.eq_nil_of_length_eq_zero (by omega)
  have hrest : rest = [] := List.eq_nil_of_length_eq_zero (by omega)
  have htext := h.text_eq
  rw [hdone, hrest, List.nil_append, List.append_nil] at htext
  exact ⟨hdone, htext.symm⟩

/-- What is refused stays refused, for the same reason, whatever follows what offends. -/
theorem Refused.exchange (hdot : t.head? = some '.') (hsingle : t ≠ ['.'])
    (h : Leftmost reason t done part rest) {rest' : List Char} (h' : Offence reason part rest') :
    Refused reason (done ++ (part ++ rest')) := by
  have hfirst := h.exchange h'
  refine .leftmost ?_ ?_ hfirst
  · obtain ⟨c, v, hpart⟩ := List.exists_cons_of_ne_nil h.offence.ne_nil
    rw [h.text_eq, hpart] at hdot
    rw [hpart]
    simpa [List.head?_append] using hdot
  · intro hsame
    -- only a dot at the end could be all there is, and then it was so before
    rw [hsame] at hfirst
    obtain ⟨hdone, hpart⟩ := hfirst.of_single
    have hrest : rest = [] := h.offence.rest_of_dot hpart
    apply hsingle
    rw [h.text_eq, hdone, hpart, hrest]
    rfl

/-- An expression is refused for the reason that its text gives. -/
theorem expectation_read_eq_error_iff {e : ProbeError} :
    Expectation.read expression = .error e ↔
      ∃ reason, e = .invalidExpectation expression reason ∧
        Refused reason (Text.trim expression.toList) := by
  have hread : Expectation.read expression = .error e ↔
      ∃ f, read expression = .error f ∧ e = .invalidExpectation expression f.message := by
    unfold Expectation.read
    match read expression with
    | .ok sel => simp
    | .error f => simp [eq_comm]
  rw [hread]
  constructor
  · intro h
    obtain ⟨f, hf, rfl⟩ := h
    exact ⟨f.message, rfl, read_eq_error_iff.1 ⟨f, hf, rfl⟩⟩
  · intro h
    obtain ⟨reason, rfl, hrefused⟩ := h
    obtain ⟨f, hf, rfl⟩ := read_eq_error_iff.2 hrefused
    exact ⟨f, hf, rfl⟩

/-- An expression is refused exactly if the text without the blanks around it is, and the error
    carries the whole expression with the reason for what offends first in that text. What follows
    it does not matter: every expression with a text that is the same up to there is refused for
    the same reason. -/
theorem leftmost_offence_is_told (expression : String) :
    (∀ e, Expectation.read expression = .error e ↔
      ∃ reason, e = .invalidExpectation expression reason ∧
        Refused reason (Text.trim expression.toList)) ∧
    ∀ reason done part rest, (Text.trim expression.toList).head? = some '.' →
      Text.trim expression.toList ≠ ['.'] →
      Leftmost reason (Text.trim expression.toList) done part rest →
      ∀ other rest', Offence reason part rest' →
        Text.trim other.toList = done ++ (part ++ rest') →
        Expectation.read other = .error (.invalidExpectation other reason) := by
  refine ⟨fun _ => expectation_read_eq_error_iff, ?_⟩
  intro reason done part rest hdot hsingle hfirst other rest' hoffence hother
  have hrefused := Refused.exchange hdot hsingle hfirst hoffence
  rw [← hother] at hrefused
  exact expectation_read_eq_error_iff.2 ⟨reason, rfl, hrefused⟩

/-- Behind the brackets of `.a[x]` two dots in a row would offend as well, and so would a quote that
    is not closed. -/
theorem leftmost_offence_is_told_in_brackets :
    Leftmost "array index must be a non-negative integer" (Text.trim " .a[x].. ".toList)
      ".a".toList "[x]".toList "..".toList ∧
    Expectation.read " .a[x].. " =
      .error (.invalidExpectation " .a[x].. " "array index must be a non-negative integer") ∧
    Expectation.read ".a[x].\"" =
      .error (.invalidExpectation ".a[x].\"" "array index must be a non-negative integer") := by
  have htrim : Text.trim " .a[x].. ".toList = ".a".toList ++ "[x]..".toList := by decide
  have hword : ∀ c ∈ "a".toList, WordChar c := wordChar_of_all (by decide)
  have hindex : ∀ i, ¬ Numeral i "x".toList := by
    intro i hi
    have hnone : index? "x".toList = none := by decide
    cases hnone.symm.trans (index?_eq_some_iff.2 hi)
  have hoffence : ∀ rest, Offence "array index must be a non-negative integer" "[x]".toList rest :=
    fun rest => .badIndex (.inl rfl) (by decide) hindex
  have hreads : Reads [.field "a"] (".a".toList ++ "[x]..".toList) "[x]..".toList :=
    .step (.inl (.word (by decide) hword (by intro c hc; cases hc; decide))) (.done _)
  obtain ⟨f, -, hstalls⟩ := stalls_of_offence (hoffence "..".toList)
  have hfirst : Leftmost "array index must be a non-negative integer"
      (Text.trim " .a[x].. ".toList) ".a".toList "[x]".toList "..".toList := by
    rw [htrim]
    exact ⟨rfl, hreads.longestSteps hstalls, hoffence _⟩
  have hdot : (Text.trim " .a[x].. ".toList).head? = some '.' := by decide
  have hsingle : Text.trim " .a[x].. ".toList ≠ ['.'] := by decide
  obtain ⟨hread, hother⟩ := leftmost_offence_is_told " .a[x].. "
  exact ⟨hfirst, (hread _).2 ⟨_, rfl, .leftmost hdot hsingle hfirst⟩,
    hother _ _ _ _ hdot hsingle hfirst _ ".\"".toList (hoffence _) (by decide)⟩

end RegistryProbe.Selector
