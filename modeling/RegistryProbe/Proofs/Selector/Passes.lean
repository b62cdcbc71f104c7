import RegistryProbe.Proofs.Selector.Numerals

/-! # What a pass takes

  A pass over a text takes one of four pieces off its front, and `Passed` lists them. The reader
  passes from a text exactly along this relation: `pass_eq_ok_iff`.
-/

namespace RegistryProbe.Selector

/-! ### Cutting at a mark -/

theorem cut?_append_mark {mark : Char} {before behind : List Char} (h : mark ∉ before) :
    cut? mark (before ++ mark :: behind) = some (before, behind) := by
  induction before with
  | nil => exact if_pos rfl
  | cons c before ih =>
    obtain ⟨hc, hbefore⟩ := not_or.1 (mt List.mem_cons.2 h)
    rw [List.cons_append, cut?, if_neg (Ne.symm hc), ih hbefore]
    rfl

theorem cut?_eq_some_iff {mark : Char} {t before behind : List Char} :
    cut? mark t = some (before, behind) ↔ mark ∉ before ∧ t = before ++ mark :: behind := by
  constructor
  · intro h
    induction t generalizing before with
    | nil => cases h
    | cons c t ih =>
      rw [cut?] at h
      split at h
      next hc =>
        cases h
        exact ⟨List.not_mem_nil, by rw [hc]; rfl⟩
      next hc =>
        obtain ⟨⟨front, back⟩, hfront, heq⟩ := Option.map_eq_some_iff.1 h
        cases heq
        obtain ⟨hnot, rfl⟩ := ih hfront
        exact ⟨by simp [hnot, Ne.symm hc], rfl⟩
  · intro h'
    obtain ⟨hnot, rfl⟩ := h'
    exact cut?_append_mark hnot

/-! ### Runs of word characters -/

/-- The reader knows the word characters of the grammar. -/
theorem isWordChar_iff {c : Char} : isWordChar c = true ↔ WordChar c := by
  simp [isWordChar, WordChar, or_assoc]

theorem isWordChar_eq_false_iff {c : Char} : isWordChar c = false ↔ ¬ WordChar c := by
  rw [← isWordChar_iff, Bool.not_eq_true]

theorem isWordChar_of_mem {w : List Char} (hw : ∀ c ∈ w, WordChar c) :
    ∀ c ∈ w, isWordChar c = true :=
  fun c hc => isWordChar_iff.2 (hw c hc)

theorem wordChar_of_all {w : List Char} (h : w.all isWordChar = true) : ∀ c ∈ w, WordChar c :=
  fun c hc => isWordChar_iff.1 (List.all_eq_true.1 h c hc)

/-- A text that does not go on with a word character. -/
def EndsWord (t : List Char) : Prop := ∀ c, t.head? = some c → ¬ WordChar c

theorem takeWhile_append_of_endsWord {w t : List Char} (hw : ∀ c ∈ w, WordChar c)
    (ht : EndsWord t) : (w ++ t).takeWhile isWordChar = w := by
  rw [List.takeWhile_append_of_pos (isWordChar_of_mem hw)]
  cases t with
  | nil => simp
  | cons c t => simp [isWordChar_eq_false_iff.2 (ht c rfl)]

theorem dropWhile_append_of_endsWord {w t : List Char} (hw : ∀ c ∈ w, WordChar c)
    (ht : EndsWord t) : (w ++ t).dropWhile isWordChar = t := by
  rw [List.dropWhile_append_of_pos (isWordChar_of_mem hw)]
  cases t with
  | nil => rfl
  | cons c t => simp [isWordChar_eq_false_iff.2 (ht c rfl)]

theorem endsWord_dropWhile (t : List Char) : EndsWord (t.dropWhile isWordChar) := by
  intro c hc
  have := List.head?_dropWhile_not isWordChar t
  rw [hc] at this
  exact isWordChar_eq_false_iff.1 (by simpa using this)

theorem takeWhile_eq_nil_iff_endsWord {t : List Char} :
    t.takeWhile isWordChar = [] ↔ EndsWord t := by
  cases t with
  | nil => simp [EndsWord]
  | cons c t => simp [EndsWord, List.takeWhile_cons, isWordChar_eq_false_iff]

theorem dropWhile_of_endsWord {t : List Char} (h : EndsWord t) : t.dropWhile isWordChar = t := by
  have hrun := takeWhile_eq_nil_iff_endsWord.2 h
  have happend := List.takeWhile_append_dropWhile (p := isWordChar) (l := t)
  rwa [hrun, List.nil_append] at happend

/-! ### The four pieces -/

/-- What a pass takes off the front of a text, and what it leaves. -/
inductive Passed : List Char → Option Step → List Char → Prop where
  /-- A dot and a name in quotes. -/
  | quoted {q rest : List Char} (no_quote : '"' ∉ q) :
      Passed ('.' :: '"' :: (q ++ '"' :: rest)) (some (.field (String.ofList q))) rest
  /-- A dot and a name of word characters, as long as it goes. -/
  | word {w rest : List Char} (w_ne : w ≠ []) (w_chars : ∀ c ∈ w, WordChar c)
      (w_ends : EndsWord rest) :
      Passed ('.' :: (w ++ rest)) (some (.field (String.ofList w))) rest
  /-- An index in brackets. -/
  | index {i : Nat} {n rest : List Char} (numeral : Numeral i n) :
      Passed ('[' :: (n ++ ']' :: rest)) (some (.index i)) rest
  /-- A dot in front of a bracket. -/
  | dot {rest : List Char} : Passed ('.' :: '[' :: rest) none ('[' :: rest)

theorem Passed.ne_nil {t rest : List Char} {s : Option Step} (h : Passed t s rest) : t ≠ [] := by
  cases h <;> exact List.cons_ne_nil _ _

/-- A run of word characters is taken as far as it goes. -/
theorem passed_run {t : List Char} (h : t.takeWhile isWordChar ≠ []) :
    Passed ('.' :: t) (some (.field (String.ofList (t.takeWhile isWordChar))))
      (t.dropWhile isWordChar) := by
  have hall : ∀ c ∈ t.takeWhile isWordChar, WordChar c := wordChar_of_all List.all_takeWhile
  have hpassed := Passed.word h hall (endsWord_dropWhile t)
  rwa [List.takeWhile_append_dropWhile] at hpassed

theorem WordChar.ne_quote {c : Char} (h : WordChar c) : c ≠ '"' := by
  intro h'
  subst h'
  exact absurd h (by decide)

/-- A word does not begin with a quote. -/
theorem head?_append_ne_quote {w : List Char} (hne : w ≠ []) (hw : ∀ c ∈ w, WordChar c)
    {rest : List Char} : (w ++ rest).head? ≠ some '"' := by
  obtain ⟨c, v, rfl⟩ := List.exists_cons_of_ne_nil hne
  intro heq
  exact (hw c List.mem_cons_self).ne_quote (Option.some.inj heq)

theorem pass_dot_quote {quoted name rest : List Char}
    (h : cut? '"' quoted = some (name, rest)) :
    pass ('.' :: '"' :: quoted) = .ok (some (.field (String.ofList name)), rest) := by
  simp [pass, h]

theorem pass_bracket {t n rest : List Char} {i : Nat} (ht : cut? ']' t = some (n, rest))
    (hn : index? n = some i) : pass ('[' :: t) = .ok (some (.index i), rest) := by
  simp [pass, ht, hn]

/-- The pass over a dot that no quote follows. -/
theorem pass_dot_of_head_ne {t : List Char} (h : t.head? ≠ some '"') :
    pass ('.' :: t) =
      if t.takeWhile isWordChar ≠ [] then
        .ok (some (.field (String.ofList (t.takeWhile isWordChar))), t.dropWhile isWordChar)
      else if t.head? = some '[' then .ok (none, t)
      else .error .emptyName := by
  cases t with
  | nil => rfl
  | cons c t =>
    have hc : c ≠ '"' := fun heq => h (congrArg some heq)
    simp only [pass]
    split
    next heq => exact absurd (List.cons.inj heq).1 hc
    next =>
      split
      next hnil => rw [if_neg (not_not_intro hnil)]
      next hne => rw [if_pos hne]

theorem pass_of_passed {t rest : List Char} {s : Option Step} (h : Passed t s rest) :
    pass t = .ok (s, rest) := by
  cases h with
  | quoted no_quote => exact pass_dot_quote (cut?_append_mark no_quote)
  | word w_ne w_chars w_ends =>
    rw [pass_dot_of_head_ne (head?_append_ne_quote w_ne w_chars),
      takeWhile_append_of_endsWord w_chars w_ends, dropWhile_append_of_endsWord w_chars w_ends,
      if_pos w_ne]
  | index numeral =>
    exact pass_bracket (cut?_append_mark numeral.not_mem_bracket) (index?_eq_some_iff.2 numeral)
  | @dot rest =>
    have hhead : ('[' :: rest).head? ≠ some '"' := by
      rw [List.head?_cons]
      decide
    have hrun : ('[' :: rest).takeWhile isWordChar = [] :=
      List.takeWhile_cons_of_neg (by decide)
    rw [pass_dot_of_head_ne hhead, if_neg (not_not_intro hrun)]
    rfl

theorem passed_of_pass {t rest : List Char} {s : Option Step} (h : pass t = .ok (s, rest)) :
    Passed t s rest := by
  unfold pass at h
  split at h
  next behind =>
    split at h
    next quoted =>
      split at h
      next => cases h
      next name _ hcut =>
        cases h
        obtain ⟨no_quote, rfl⟩ := cut?_eq_some_iff.1 hcut
        exact .quoted no_quote
    next =>
      split at h
      next =>
        split at h
        next hhead =>
          -- no run, but a bracket: the dot alone is dropped
          cases h
          obtain ⟨v, rfl⟩ := List.head?_eq_some_iff.1 hhead
          exact .dot
        next => cases h
      next hne =>
        cases h
        exact passed_run hne
  next behind =>
    split at h
    next => cases h
    next inner _ hcut =>
      obtain ⟨-, rfl⟩ := cut?_eq_some_iff.1 hcut
      split at h
      next => cases h
      next i hi =>
        cases h
        exact .index (index?_eq_some_iff.1 hi)
  next => cases h

/-- A pass takes exactly the pieces that the relation lists. -/
theorem pass_eq_ok_iff {t rest : List Char} {s : Option Step} :
    pass t = .ok (s, rest) ↔ Passed t s rest :=
  ⟨passed_of_pass, pass_of_passed⟩

/-- A text determines what a pass takes off it. -/
theorem Passed.unique {t rest rest' : List Char} {s s' : Option Step} (h : Passed t s rest)
    (h' : Passed t s' rest') : s = s' ∧ rest = rest' := by
  have heq := (pass_of_passed h).symm.trans (pass_of_passed h')
  cases heq
  exact ⟨rfl, rfl⟩

end RegistryProbe.Selector
