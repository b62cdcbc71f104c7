import RegistryProbe.Selector.Grammar
import RegistryProbe.Selector.Reader

/-! # Indices in brackets

  The reader trims what stands in brackets and takes the rest for a numeral. The grammar says where
  blanks, sign and digits stand. Both mean the same texts: `index?_eq_some_iff`.
-/

namespace RegistryProbe

namespace Text

theorem isBlank_of_digit {c : Char} (h : '0' ≤ c ∧ c ≤ '9') : isBlank c = false := by
  have hc : 0x30 ≤ c.toNat ∧ c.toNat ≤ 0x39 := h
  simp only [isBlank, Bool.or_eq_false_iff, Bool.and_eq_false_iff, decide_eq_false_iff_not,
    beq_eq_false_iff_ne]
  omega

/-- Nothing is trimmed off a text that has no blank at either end. -/
theorem trim_eq_self {t : List Char} (hhead : ∀ c, t.head? = some c → isBlank c = false)
    (hlast : ∀ c, t.getLast? = some c → isBlank c = false) : trim t = t := by
  have hstart : trimStart t = t := by
    cases t with
    | nil => rfl
    | cons c t => simp [trimStart, hhead c rfl]
  have hend : trimEnd t = t := by
    cases h : t.reverse with
    | nil => simp_all [trimEnd]
    | cons c u =>
      have hc : isBlank c = false := by
        apply hlast
        rw [← List.head?_reverse, h]
        rfl
      rw [trimEnd, h, List.dropWhile_cons_of_neg (by simp [hc]), ← h, List.reverse_reverse]
  rw [trim, hstart, hend]

namespace Decimal

theorem numeral?_plus (t : List Char) :
    numeral? ('+' :: t) = if t ≠ [] ∧ t.all isDigit then some t else none := rfl

theorem numeral?_of_head_ne {t : List Char} (h : t.head? ≠ some '+') :
    numeral? t = if t ≠ [] ∧ t.all isDigit then some t else none := by
  cases t with
  | nil => rfl
  | cons c rest =>
    have hc : c ≠ '+' := fun heq => h (congrArg some heq)
    simp [numeral?, hc]

theorem all_isDigit_iff {ds : List Char} :
    ds.all isDigit = true ↔ ∀ c ∈ ds, '0' ≤ c ∧ c ≤ '9' := by
  simp [isDigit]

/-- A numeral is a run of digits, possibly behind a plus sign. -/
theorem numeral?_eq_some_iff {t ds : List Char} :
    numeral? t = some ds ↔
      (t = ds ∨ t = '+' :: ds) ∧ ds ≠ [] ∧ ∀ c ∈ ds, '0' ≤ c ∧ c ≤ '9' := by
  constructor
  · intro h
    -- the reader looks for the sign first, and digits have none
    by_cases hhead : t.head? = some '+'
    · obtain ⟨rest, rfl⟩ := List.head?_eq_some_iff.1 hhead
      rw [numeral?_plus] at h
      obtain ⟨hgood, hds⟩ := Option.ite_none_right_eq_some.1 h
      cases hds
      exact ⟨.inr rfl, hgood.1, all_isDigit_iff.1 hgood.2⟩
    · rw [numeral?_of_head_ne hhead] at h
      obtain ⟨hgood, hds⟩ := Option.ite_none_right_eq_some.1 h
      cases hds
      exact ⟨.inl rfl, hgood.1, all_isDigit_iff.1 hgood.2⟩
  · intro h'
    rcases h' with ⟨rfl | rfl, hne, hdigits⟩
    · have hhead : t.head? ≠ some '+' := by
        intro h
        have hplus := hdigits '+' (List.mem_of_head? h)
        revert hplus
        decide
      rw [numeral?_of_head_ne hhead]
      exact if_pos ⟨hne, all_isDigit_iff.2 hdigits⟩
    · rw [numeral?_plus]
      exact if_pos ⟨hne, all_isDigit_iff.2 hdigits⟩

theorem readBelow?_eq_some_iff {bound i : Nat} {t : List Char} :
    readBelow? bound t = some i ↔ ∃ ds, numeral? t = some ds ∧ value ds = i ∧ i < bound := by
  rw [readBelow?_eq, Option.filter_eq_some_iff, read?, Option.map_eq_some_iff]
  constructor
  · intro h
    obtain ⟨⟨ds, hds, hi⟩, hlt⟩ := h
    exact ⟨ds, hds, hi, of_decide_eq_true hlt⟩
  · intro h
    obtain ⟨ds, hds, hi, hlt⟩ := h
    exact ⟨⟨ds, hds, hi⟩, decide_eq_true hlt⟩

end Decimal

end Text

namespace Selector

/-- The reader takes exactly the written forms of an index for one. -/
theorem index?_eq_some_iff {t : List Char} {i : Nat} : index? t = some i ↔ Numeral i t := by
  unfold index?
  rw [Text.Decimal.readBelow?_eq_some_iff]
  constructor
  · intro h
    obtain ⟨ds, hds, rfl, hbound⟩ := h
    obtain ⟨before, behind, hbefore, hbehind, ht⟩ := Text.exists_surround t
    obtain ⟨hsign, hne, hdigits⟩ := Text.Decimal.numeral?_eq_some_iff.1 hds
    rw [ht]
    rcases hsign with hsign | hsign
    · rw [hsign]
      have := Numeral.intro hbefore (.inl rfl) hne hdigits hbehind hbound
      rwa [List.append_nil] at this
    · rw [hsign]
      have := Numeral.intro hbefore (.inr rfl) hne hdigits hbehind hbound
      rwa [List.append_assoc before, List.singleton_append] at this
  · intro h
    obtain ⟨hbefore, hsign, hne, hdigits, hbehind, hbound⟩ := h
    next before sign ds behind =>
    refine ⟨ds, ?_, rfl, hbound⟩
    -- sign and digits are no blanks, so trimming stops at them
    have hcore : Text.trim (sign ++ ds) = sign ++ ds := by
      apply Text.trim_eq_self
      · intro c hc
        rcases hsign with rfl | rfl
        · exact Text.isBlank_of_digit (hdigits c (List.mem_of_head? hc))
        · obtain rfl : '+' = c := by simpa using hc
          decide
      · intro c hc
        rw [List.getLast?_append, List.getLast?_eq_some_getLast hne, Option.some_or] at hc
        obtain rfl := Option.some.inj hc
        exact Text.isBlank_of_digit (hdigits _ (List.getLast_mem hne))
    rw [List.append_assoc before, Text.trim_surround hbefore hbehind, hcore,
      Text.Decimal.numeral?_eq_some_iff]
    refine ⟨?_, hne, hdigits⟩
    rcases hsign with rfl | rfl
    · exact .inl rfl
    · exact .inr rfl

/-- No closing bracket stands within an index. -/
theorem Numeral.not_mem_bracket {i : Nat} {t : List Char} (h : Numeral i t) : ']' ∉ t := by
  obtain ⟨hbefore, hsign, -, hdigits, hbehind, -⟩ := h
  have hblank : Text.isBlank ']' = false := by decide
  have hdigit : ¬ ('0' ≤ ']' ∧ ']' ≤ '9') := by decide
  simp only [List.mem_append, not_or]
  refine ⟨⟨⟨fun hm => ?_, ?_⟩, fun hm => ?_⟩, fun hm => ?_⟩
  · have := hbefore _ hm
    simp [hblank] at this
  · rcases hsign with rfl | rfl <;> decide
  · exact hdigit (hdigits _ hm)
  · have := hbehind _ hm
    simp [hblank] at this

end Selector

end RegistryProbe
