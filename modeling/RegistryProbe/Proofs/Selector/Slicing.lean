import RegistryProbe.Bytes
import RegistryProbe.Proofs.Selector.Offences
import RegistryProbe.Selector.Slices

/-! # Slices fall between characters

  The bytes of a beginning of a text, character by character, add up to an offset at which the text
  can be sliced. The offsets of a pass are of this kind: they count the bytes in front of the
  character that was looked for. One byte more leads behind it, since quotes and brackets are one
  byte long, however long the characters around them are.

  - A slice at the end of a beginning gives the beginning and the rest: `sliceTo_append`,
    `sliceFrom_append`.
  - A sliced pass takes what a pass takes and fails at what a pass fails at: `slicedPass_of_passed`,
    `slicedPass_of_failed`. There is nothing else that it could come to, so no slice is misplaced:
    `slicedPass_ne_misplaced`.
-/

namespace RegistryProbe.Selector

variable {t u v rest : List Char} {s : Option Step} {f : Fault} {p : Char → Bool} {c mark : Char}

/-! ### Counting bytes -/

theorem byteLength_eq (t : List Char) : byteLength t = (String.ofList t).utf8ByteSize := by
  induction t with
  | nil => rfl
  | cons c t ih =>
    rw [byteLength, ih]
    exact (Bytes.length_ofText_ofList_cons c t).symm

@[simp] theorem byteLength_append (u v : List Char) :
    byteLength (u ++ v) = byteLength u + byteLength v := by
  rw [byteLength_eq, byteLength_eq, byteLength_eq, String.ofList_append, String.utf8ByteSize_append]

theorem length_le_byteLength (t : List Char) : t.length ≤ byteLength t := by
  induction t with
  | nil => exact Nat.le_refl 0
  | cons c t ih =>
    have hc : 0 < c.utf8Size := c.utf8Size_pos
    rw [List.length_cons, byteLength]
    omega

theorem byteLength_pos (h : t ≠ []) : 0 < byteLength t :=
  Nat.lt_of_lt_of_le (List.length_pos_iff.2 h) (length_le_byteLength t)

theorem byteIndex?_of_forall (h : ∀ c ∈ t, p c = false) : byteIndex? p t = none := by
  induction t with
  | nil => rfl
  | cons c t ih =>
    have hrest := ih fun d hd => h d (List.mem_cons_of_mem c hd)
    rw [byteIndex?, h c List.mem_cons_self, hrest]
    rfl

/-- The first character of a kind stands behind the bytes of those that are not. -/
theorem byteIndex?_append_cons (hu : ∀ c ∈ u, p c = false) (hc : p c = true) :
    byteIndex? p (u ++ c :: v) = some (byteLength u) := by
  induction u with
  | nil => rw [List.nil_append, byteIndex?, hc]; rfl
  | cons d u ih =>
    have hrest := ih fun e he => hu e (List.mem_cons_of_mem d he)
    rw [List.cons_append, byteIndex?, hu d List.mem_cons_self, hrest]
    rfl

theorem decide_eq_mark_of_not_mem (h : mark ∉ t) : ∀ c ∈ t, decide (c = mark) = false :=
  fun _ hc => decide_eq_false fun heq => h (heq ▸ hc)

theorem byteIndex?_of_not_mem (h : mark ∉ t) : byteIndex? (· = mark) t = none :=
  byteIndex?_of_forall (decide_eq_mark_of_not_mem h)

theorem byteIndex?_append_mark (h : mark ∉ u) :
    byteIndex? (· = mark) (u ++ mark :: v) = some (byteLength u) :=
  byteIndex?_append_cons (decide_eq_mark_of_not_mem h) (decide_eq_true rfl)

/-- A run of word characters ends where the first other one stands, or where the text does. -/
theorem byteIndex?_word (hu : ∀ c ∈ u, WordChar c) (hrest : EndsWord rest) :
    (byteIndex? (fun c => !isWordChar c) (u ++ rest)).getD (byteLength (u ++ rest)) =
      byteLength u := by
  have hrun : ∀ c ∈ u, (!isWordChar c) = false := by
    intro c hc
    rw [isWordChar_of_mem hu c hc]
    rfl
  cases rest with
  | nil => rw [List.append_nil, byteIndex?_of_forall hrun, Option.getD_none]
  | cons c rest =>
    have hc : (!isWordChar c) = true := by
      rw [isWordChar_eq_false_iff.2 (hrest c rfl)]
      rfl
    rw [byteIndex?_append_cons hrun hc, Option.getD_some]

/-! ### Slices -/

theorem isValid_append (front rest : String) :
    String.Pos.Raw.IsValid (front ++ rest) ⟨front.utf8ByteSize⟩ :=
  String.Pos.Raw.isValid_iff_exists_append.2 ⟨front, rest, rfl, rfl⟩

theorem splits_append (front rest : String) :
    ((front ++ rest).pos ⟨front.utf8ByteSize⟩ (isValid_append front rest)).Splits front rest :=
  ⟨rfl, rfl⟩

theorem sliceTo_append (front rest : String) :
    sliceTo (front ++ rest) front.utf8ByteSize = .ok front := by
  rw [sliceTo, dif_pos (isValid_append front rest), (splits_append front rest).copy_sliceTo_eq]

theorem sliceFrom_append (front rest : String) :
    sliceFrom (front ++ rest) front.utf8ByteSize = .ok rest := by
  rw [sliceFrom, dif_pos (isValid_append front rest), (splits_append front rest).copy_sliceFrom_eq]

theorem sliceTo_ofList (u v : List Char) :
    sliceTo (String.ofList (u ++ v)) (byteLength u) = .ok (String.ofList u) := by
  rw [String.ofList_append, byteLength_eq]
  exact sliceTo_append _ _

theorem sliceFrom_ofList (u v : List Char) :
    sliceFrom (String.ofList (u ++ v)) (byteLength u) = .ok (String.ofList v) := by
  rw [String.ofList_append, byteLength_eq]
  exact sliceFrom_append _ _

/-- Behind a mark of one byte. -/
theorem sliceFrom_behind_mark (h : mark.utf8Size = 1) (u v : List Char) :
    sliceFrom (String.ofList (u ++ mark :: v)) (byteLength u + 1) = .ok (String.ofList v) := by
  have hslice := sliceFrom_ofList (u ++ [mark]) v
  rw [byteLength_append, byteLength, byteLength, h, List.append_assoc] at hslice
  exact hslice

theorem behind?_cons_self (c : Char) (t : List Char) :
    behind? c (String.ofList (c :: t)) = some (String.ofList t) := by
  simp [behind?]

theorem behind?_of_head?_ne (h : t.head? ≠ some c) : behind? c (String.ofList t) = none := by
  simp [behind?, h]

/-! ### Which pass it is -/

theorem slicedPass_quote (t : List Char) :
    slicedPass (String.ofList ('.' :: '"' :: t)) = quotedPass (String.ofList t) := by
  rw [slicedPass, behind?_cons_self]
  simp only [behind?_cons_self]

theorem slicedPass_dot (h : t.head? ≠ some '"') :
    slicedPass (String.ofList ('.' :: t)) = wordPass (String.ofList t) := by
  rw [slicedPass, behind?_cons_self]
  simp only [behind?_of_head?_ne h]

theorem slicedPass_bracket (t : List Char) :
    slicedPass (String.ofList ('[' :: t)) = bracketPass (String.ofList t) := by
  have hdot : ('[' :: t).head? ≠ some '.' := by
    rw [List.head?_cons]
    decide
  rw [slicedPass, behind?_of_head?_ne hdot]
  simp only [behind?_cons_self]

theorem slicedPass_stray (hdot : t.head? ≠ some '.') (hbracket : t.head? ≠ some '[') :
    slicedPass (String.ofList t) = .error (.refused .strayCharacter) := by
  rw [slicedPass, behind?_of_head?_ne hdot]
  simp only [behind?_of_head?_ne hbracket]

/-! ### What the passes slice -/

theorem quotedPass_of_mark (h : '"' ∉ u) :
    quotedPass (String.ofList (u ++ '"' :: v)) =
      .ok (some (.field (String.ofList u)), String.ofList v) := by
  have hquote : '"'.utf8Size = 1 := by decide
  rw [quotedPass, String.toList_ofList, byteIndex?_append_mark h]
  simp only [sliceTo_ofList, sliceFrom_behind_mark hquote]
  rfl

theorem quotedPass_of_not_mem (h : '"' ∉ t) :
    quotedPass (String.ofList t) = .error (.refused .openQuote) := by
  rw [quotedPass, String.toList_ofList, byteIndex?_of_not_mem h]

theorem wordPass_of_word (hne : u ≠ []) (hu : ∀ c ∈ u, WordChar c)
    (hrest : EndsWord rest) :
    wordPass (String.ofList (u ++ rest)) =
      .ok (some (.field (String.ofList u)), String.ofList rest) := by
  have hstop : byteLength u ≠ 0 := Nat.ne_of_gt (byteLength_pos hne)
  rw [wordPass, String.toList_ofList, ← byteLength_eq, byteIndex?_word hu hrest]
  simp only [if_neg hstop, sliceTo_ofList, sliceFrom_ofList]
  rfl

theorem wordPass_of_endsWord (h : EndsWord t) :
    wordPass (String.ofList t) =
      if t.head? = some '[' then .ok (none, String.ofList t) else .error (.refused .emptyName) := by
  have hstop := byteIndex?_word (u := []) (by simp) h
  rw [List.nil_append, byteLength] at hstop
  rw [wordPass, String.toList_ofList, ← byteLength_eq, hstop]
  rfl

theorem bracketPass_of_mark (h : ']' ∉ u) :
    bracketPass (String.ofList (u ++ ']' :: v)) =
      match index? u with
      | none => .error (.refused .badIndex)
      | some i => .ok (some (.index i), String.ofList v) := by
  have hbracket : ']'.utf8Size = 1 := by decide
  rw [bracketPass, String.toList_ofList, byteIndex?_append_mark h]
  simp only [sliceTo_ofList, sliceFrom_behind_mark hbracket]
  cases hindex : index? u with
  | none => simp [bind, Except.bind, hindex]
  | some i => simp [bind, Except.bind, hindex, pure, Except.pure]

theorem bracketPass_of_not_mem (h : ']' ∉ t) :
    bracketPass (String.ofList t) = .error (.refused .openBracket) := by
  rw [bracketPass, String.toList_ofList, byteIndex?_of_not_mem h]

/-! ### A sliced pass is a pass -/

theorem slicedPass_of_passed (h : Passed t s rest) :
    slicedPass (String.ofList t) = .ok (s, String.ofList rest) := by
  cases h with
  | quoted no_quote => rw [slicedPass_quote, quotedPass_of_mark no_quote]
  | word w_ne w_chars w_ends =>
    rw [slicedPass_dot (head?_append_ne_quote w_ne w_chars), wordPass_of_word w_ne w_chars w_ends]
  | index numeral =>
    rw [slicedPass_bracket, bracketPass_of_mark numeral.not_mem_bracket,
      index?_eq_some_iff.2 numeral]
  | @dot rest =>
    have hhead : ('[' :: rest).head? ≠ some '"' := by
      rw [List.head?_cons]
      decide
    have hends : EndsWord ('[' :: rest) := by
      intro c hc
      cases hc
      decide
    rw [slicedPass_dot hhead, wordPass_of_endsWord hends, List.head?_cons, if_pos rfl]

theorem slicedPass_of_failed (h : Failed t f) :
    slicedPass (String.ofList t) = .error (.refused f) := by
  cases h with
  | openQuote no_quote => rw [slicedPass_quote, quotedPass_of_not_mem no_quote]
  | emptyName not_quote not_bracket ends =>
    rw [slicedPass_dot not_quote, wordPass_of_endsWord ends, if_neg not_bracket]
  | openBracket no_bracket => rw [slicedPass_bracket, bracketPass_of_not_mem no_bracket]
  | badIndex no_bracket not_index =>
    rw [slicedPass_bracket, bracketPass_of_mark no_bracket, index?_of_not_numeral not_index]
  | strayCharacter not_dot not_bracket => exact slicedPass_stray not_dot not_bracket

/-- A pass over a text either takes a piece off it or refuses it: no slice is misplaced. -/
theorem slicedPass_cases (text : String) :
    (∃ s rest, slicedPass text = .ok (s, rest) ∧ Passed text.toList s rest.toList) ∨
      ∃ f, slicedPass text = .error (.refused f) ∧ Failed text.toList f := by
  rw [← String.ofList_toList (s := text), String.toList_ofList]
  rcases passed_or_failed text.toList with ⟨s, rest, hpassed⟩ | ⟨f, hfailed⟩
  · refine .inl ⟨s, String.ofList rest, slicedPass_of_passed hpassed, ?_⟩
    rwa [String.toList_ofList]
  · exact .inr ⟨f, slicedPass_of_failed hfailed, hfailed⟩

theorem slicedPass_ne_misplaced (text sliced : String) (offset : Nat) :
    slicedPass text ≠ .error (.misplaced sliced offset) := by
  intro h
  rcases slicedPass_cases text with ⟨s, rest, hok, -⟩ | ⟨f, herror, -⟩
  · cases h.symm.trans hok
  · cases h.symm.trans herror

/-- A sliced pass is what the reader's pass is on the characters of the text. -/
theorem slicedPass_eq (text : String) :
    slicedPass text =
      ((pass text.toList).map fun (s, rest) => (s, String.ofList rest)).mapError Halt.refused := by
  rcases slicedPass_cases text with ⟨s, rest, hok, hpassed⟩ | ⟨f, herror, hfailed⟩
  · rw [hok, pass_of_passed hpassed]
    show Except.ok (s, rest) = Except.ok (s, String.ofList rest.toList)
    rw [String.ofList_toList]
  · rw [herror, pass_of_failed hfailed]
    rfl

theorem passed_of_slicedPass {text rest : String} (h : slicedPass text = .ok (s, rest)) :
    Passed text.toList s rest.toList := by
  rcases slicedPass_cases text with ⟨s', rest', hok, hpassed⟩ | ⟨f, herror, -⟩
  · cases h.symm.trans hok
    exact hpassed
  · cases h.symm.trans herror

theorem failed_of_slicedPass {text : String} {halt : Halt} (h : slicedPass text = .error halt) :
    ∃ f, halt = .refused f ∧ Failed text.toList f := by
  rcases slicedPass_cases text with ⟨s, rest, hok, -⟩ | ⟨f, herror, hfailed⟩
  · cases h.symm.trans hok
  · cases h.symm.trans herror
    exact ⟨f, rfl, hfailed⟩

end RegistryProbe.Selector
