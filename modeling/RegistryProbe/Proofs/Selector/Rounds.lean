import RegistryProbe.Proofs.Selector.Refusals
import RegistryProbe.Proofs.Selector.Slicing

/-! # Reading in place and in time

  The passes over the UTF-8 form of a selector, from the first to the last.

  - A pass takes a front off the text that is one byte long at least, and two where it completes a
    step. The cuts go on behind it: `exists_front_of_slicedPass`.
  - So the bytes that have been read bound the passes and the steps. `Front` says this of a number
    of passes, and one more pass keeps it: `Front.pass`, `Rounds.exists_front`.
  - What is left gets shorter with every pass. So the passes end, with what the reader says of the
    whole text: `Rounds.exists_ends`, `Ends.eq_scan`.
-/

namespace RegistryProbe.Selector

variable {t rest : List Char} {s : Option Step} {n width offset : Nat} {text left : String}
  {taken : List Step} {outcome : Except Halt (List Step)}

/-! ### The front that a pass takes -/

theorem passWidth_dot (h : t.head? ≠ some '"') :
    passWidth ('.' :: t) =
      if (byteIndex? (fun c => !isWordChar c) t).getD (byteLength t) = 0 then
        if t.head? = some '[' then some 1 else none
      else some (1 + (byteIndex? (fun c => !isWordChar c) t).getD (byteLength t)) := by
  cases t with
  | nil => rfl
  | cons c t =>
    have hc : c ≠ '"' := fun heq => h (congrArg some heq)
    simp only [passWidth]
    split
    next heq => exact absurd (List.cons.inj heq).1 hc
    next => rfl

/-- A pass takes a front off a text, which is as wide as the pass is said to be. It is a character
    longer at least than it completes steps. -/
theorem Passed.exists_front (h : Passed t s rest) :
    ∃ front, t = front ++ rest ∧ passWidth t = some (byteLength front) ∧
      s.toList.length < front.length := by
  have hdot : '.'.utf8Size = 1 := by decide
  have hquote : '"'.utf8Size = 1 := by decide
  have hopen : '['.utf8Size = 1 := by decide
  have hclose : ']'.utf8Size = 1 := by decide
  cases h with
  | @quoted q _ no_quote =>
    have hwidth : byteLength ('.' :: '"' :: (q ++ ['"'])) = 1 + 1 + byteLength q + 1 := by
      simp only [byteLength, byteLength_append, hdot, hquote]
      omega
    refine ⟨'.' :: '"' :: (q ++ ['"']), by simp, ?_, by simp⟩
    rw [hwidth, passWidth, byteIndex?_append_mark no_quote, Option.map_some]
  | @word w _ w_ne w_chars w_ends =>
    have hrun : byteLength w ≠ 0 := Nat.ne_of_gt (byteLength_pos w_ne)
    refine ⟨'.' :: w, rfl, ?_, by simpa using List.length_pos_iff.2 w_ne⟩
    rw [passWidth_dot (head?_append_ne_quote w_ne w_chars), byteIndex?_word w_chars w_ends,
      if_neg hrun, byteLength, hdot]
  | @index i n _ numeral =>
    have hwidth : byteLength ('[' :: (n ++ [']'])) = 1 + byteLength n + 1 := by
      simp only [byteLength, byteLength_append, hopen, hclose]
      omega
    refine ⟨'[' :: (n ++ [']']), by simp, ?_, by simp⟩
    rw [hwidth, passWidth, byteIndex?_append_mark numeral.not_mem_bracket, Option.map_some]
  | dot => exact ⟨['.'], rfl, rfl, Nat.zero_lt_one⟩

theorem cuts_of_passed (h : Passed t s rest) (hwidth : passWidth t = some width) (offset : Nat) :
    cuts offset t = (offset + width) :: cuts (offset + width) rest := by
  have hpass := pass_of_passed h
  rw [cuts, if_neg h.ne_nil]
  split
  next heq => cases hpass.symm.trans heq
  next heq =>
    cases hpass.symm.trans heq
    rw [hwidth]

/-- A sliced pass takes a byte at least, and two if it completes a step. The cuts go on behind what
    it takes. -/
theorem exists_front_of_slicedPass {rest : String} (h : slicedPass left = .ok (s, rest)) :
    ∃ front, left = front ++ rest ∧ 1 ≤ front.utf8ByteSize ∧
      2 * s.toList.length ≤ front.utf8ByteSize ∧ ∀ offset, cuts offset left.toList =
        (offset + front.utf8ByteSize) :: cuts (offset + front.utf8ByteSize) rest.toList := by
  have hpassed := passed_of_slicedPass h
  obtain ⟨front, hleft, hwidth, hlonger⟩ := hpassed.exists_front
  have hcuts := cuts_of_passed hpassed hwidth
  have hbytes := length_le_byteLength front
  have hone : s.toList.length ≤ 1 := by cases s <;> simp
  rw [byteLength_eq] at hcuts hbytes
  refine ⟨String.ofList front, ?_, by omega, by omega, hcuts⟩
  rw [← String.toList_inj, hleft, String.toList_append, String.toList_ofList]

/-! ### What has been read after some passes -/

/-- The front of a text that a number of passes have read, and what they leave behind it. -/
structure Front (text front : String) (n : Nat) (taken : List Step) (left : String) : Prop where
  /-- The front and what is left are the text. -/
  text_eq : text = front ++ left
  /-- The front has a byte for each pass. -/
  rounds_le : n ≤ front.utf8ByteSize
  /-- The front has two bytes for each step. -/
  steps_le : 2 * taken.length ≤ front.utf8ByteSize
  /-- The front ends at the cut with the number of the passes. -/
  cut_eq : (0 :: cuts 0 text.toList)[n]? = some front.utf8ByteSize
  /-- The cuts that follow are those of what is left. -/
  cuts_eq : (cuts 0 text.toList).drop n = cuts front.utf8ByteSize left.toList

/-- One more pass makes the front longer. -/
theorem Front.pass {front rest : String} (h : Front text front n taken left)
    (hpass : slicedPass left = .ok (s, rest)) :
    ∃ front, Front text front (n + 1) (taken ++ s.toList) rest := by
  obtain ⟨more, hleft, hpos, hsteps, hcuts⟩ := exists_front_of_slicedPass hpass
  have hsize : (front ++ more).utf8ByteSize = front.utf8ByteSize + more.utf8ByteSize :=
    String.utf8ByteSize_append
  have hdrop := h.cuts_eq
  rw [hcuts] at hdrop
  refine ⟨front ++ more, ?_, ?_, ?_, ?_, ?_⟩
  · rw [h.text_eq, hleft, String.append_assoc]
  · have := h.rounds_le
    omega
  · have := h.steps_le
    rw [List.length_append]
    omega
  · -- the next cut heads those that are left
    rw [List.getElem?_cons_succ, ← List.head?_drop, hdrop, hsize]
    rfl
  · rw [← List.tail_drop, hdrop, hsize]
    rfl

theorem Rounds.exists_front (h : Rounds text n taken left) :
    ∃ front, Front text front n taken left := by
  induction h with
  | start => exact ⟨"", by simp, Nat.le_refl 0, Nat.le_refl 0, rfl, rfl⟩
  | pass _ _ passed ih =>
    obtain ⟨front, hfront⟩ := ih
    exact hfront.pass passed

theorem Rounds.add_le (h : Rounds text n taken left) :
    n + left.utf8ByteSize ≤ text.utf8ByteSize := by
  obtain ⟨front, hfront⟩ := h.exists_front
  have hrounds := hfront.rounds_le
  rw [hfront.text_eq, String.utf8ByteSize_append]
  omega

theorem Rounds.steps_le (h : Rounds text n taken left) :
    2 * taken.length ≤ text.utf8ByteSize := by
  obtain ⟨front, hfront⟩ := h.exists_front
  have hsteps := hfront.steps_le
  rw [hfront.text_eq, String.utf8ByteSize_append]
  omega

/-! ### The end of the passes -/

theorem utf8ByteSize_lt_of_slicedPass {rest : String} (h : slicedPass left = .ok (s, rest)) :
    rest.utf8ByteSize < left.utf8ByteSize := by
  obtain ⟨front, hleft, hpos, -, -⟩ := exists_front_of_slicedPass h
  rw [hleft, String.utf8ByteSize_append]
  omega

theorem Ends.le (h : Ends text n outcome) : n ≤ text.utf8ByteSize := by
  cases h with
  | read before =>
    have := before.add_le
    omega
  | @halted n taken left halt before goes_on halts =>
    -- the pass that halts has a byte left
    have hpos : left.utf8ByteSize ≠ 0 := mt String.utf8ByteSize_eq_zero_iff.1 goes_on
    have := before.add_le
    omega

theorem Rounds.exists_ends (h : Rounds text n taken left) :
    ∃ n outcome, Ends text n outcome := by
  -- induction on the bytes that are left
  induction hsize : left.utf8ByteSize using Nat.strongRecOn generalizing n taken left with
  | ind size ih =>
    by_cases hleft : left = ""
    · subst hleft
      exact ⟨n, .ok taken, .read h⟩
    · match hpass : slicedPass left with
      | .ok (s, rest) =>
        have hlt : rest.utf8ByteSize < size := hsize ▸ utf8ByteSize_lt_of_slicedPass hpass
        exact ih rest.utf8ByteSize hlt (.pass h hleft hpass) rfl
      | .error halt => exact ⟨n + 1, .error halt, .halted h hleft hpass⟩

theorem Rounds.scan_eq (h : Rounds text n taken left) :
    scan text.toList = (scan left.toList).map (taken ++ ·) := by
  induction h with
  | start => cases scan text.toList <;> rfl
  | @pass n taken left rest s before goes_on passed ih =>
    rw [ih, scan_of_passed (passed_of_slicedPass passed)]
    cases scan rest.toList with
    | error f => rfl
    | ok steps =>
      show Except.ok (taken ++ (s.toList ++ steps)) = Except.ok (taken ++ s.toList ++ steps)
      rw [List.append_assoc]

/-- The passes come to what is scanned. -/
theorem Ends.eq_scan (h : Ends text n outcome) :
    outcome = (scan text.toList).mapError Halt.refused := by
  cases h with
  | @read n taken before =>
    rw [before.scan_eq, String.toList_empty, scan_nil]
    show Except.ok taken = Except.ok (taken ++ [])
    rw [List.append_nil]
  | @halted n taken left halt before goes_on halts =>
    obtain ⟨f, rfl, hfailed⟩ := failed_of_slicedPass halts
    have hleft : left.toList ≠ [] := mt String.toList_eq_nil_iff.1 goes_on
    rw [before.scan_eq, scan_of_failed hfailed hleft]
    rfl

theorem steps_le_of_scan (h : scan text.toList = .ok taken) :
    2 * taken.length ≤ text.utf8ByteSize := by
  -- the passes end with these steps
  obtain ⟨n, outcome, hends⟩ := (Rounds.start (t := text)).exists_ends
  have houtcome : outcome = .ok taken := by rw [hends.eq_scan, h]; rfl
  subst houtcome
  cases hends with
  | read before => exact before.steps_le

/-! ### Reading in place -/

theorem steps_le_of_read {expression : String} {sel : Selector} (h : read expression = .ok sel) :
    2 * sel.steps.length ≤ sel.text.utf8ByteSize := by
  obtain ⟨htext, ⟨-, hsteps⟩ | ⟨-, -, hscan⟩⟩ := read_eq_ok_iff_scan.1 h
  · rw [hsteps]
    exact Nat.zero_le _
  · apply steps_le_of_scan
    rw [htext, String.toList_ofList, hscan]

/-- How the passes over a text slice it, and how long they go on. -/
structure SlicedInPlace (text : String) : Prop where
  /-- No pass slices a text past its end or within a character. -/
  placed : ∀ n taken left, Rounds text n taken left →
    ∀ sliced offset, slicedPass left ≠ .error (.misplaced sliced offset)
  /-- Every pass comes to what the reader's pass over the same characters comes to. -/
  passes : ∀ n taken left, Rounds text n taken left → slicedPass left =
    ((pass left.toList).map fun (s, rest) => (s, String.ofList rest)).mapError Halt.refused
  /-- What is left is the end of the text, from the cut with the number of the passes on. This cut
      is within the text and not within a character. -/
  behind_cut : ∀ n taken left, Rounds text n taken left → ∃ front, text = front ++ left ∧
    (0 :: cuts 0 text.toList)[n]? = some front.utf8ByteSize ∧
    String.Pos.Raw.IsValid text ⟨front.utf8ByteSize⟩
  /-- Every pass leaves less, also one that completes no step. -/
  shorter : ∀ n taken left, Rounds text n taken left →
    ∀ s rest, slicedPass left = .ok (s, rest) → rest.utf8ByteSize < left.utf8ByteSize
  /-- At least one byte has been read for each pass. -/
  rounds_le : ∀ n taken left, Rounds text n taken left →
    n + left.utf8ByteSize ≤ text.utf8ByteSize
  /-- There are at most half as many steps as bytes. -/
  steps_le : ∀ n taken left, Rounds text n taken left → 2 * taken.length ≤ text.utf8ByteSize
  /-- The passes end. -/
  ends : ∃ n outcome, Ends text n outcome
  /-- They end after at most as many passes as the text has bytes, one that halts among them. -/
  ends_le : ∀ n outcome, Ends text n outcome → n ≤ text.utf8ByteSize

/-- An expression without the blanks around it is sliced in place by passes that end in time. Where
    it begins with a dot and is not the dot alone, they come to what the reader answers. A selector
    that is read has at most half as many steps as its text has bytes. -/
theorem selectors_are_read_in_place (expression : String) :
    SlicedInPlace (String.ofList (Text.trim expression.toList)) ∧
    ((Text.trim expression.toList).head? = some '.' → Text.trim expression.toList ≠ ['.'] →
      ∀ n outcome, Ends (String.ofList (Text.trim expression.toList)) n outcome →
        outcome = ((read expression).map Selector.steps).mapError Halt.refused) ∧
    ∀ sel, read expression = .ok sel → 2 * sel.steps.length ≤ sel.text.utf8ByteSize := by
  refine ⟨⟨?_, ?_, ?_, ?_, ?_, ?_, ?_, ?_⟩, ?_, ?_⟩
  · intro n taken left _
    exact slicedPass_ne_misplaced left
  · intro n taken left _
    exact slicedPass_eq left
  · intro n taken left hrounds
    obtain ⟨front, hfront⟩ := hrounds.exists_front
    refine ⟨front, hfront.text_eq, hfront.cut_eq, ?_⟩
    rw [hfront.text_eq]
    exact isValid_append front left
  · intro n taken left _ s rest hpass
    exact utf8ByteSize_lt_of_slicedPass hpass
  · intro n taken left hrounds
    exact hrounds.add_le
  · intro n taken left hrounds
    exact hrounds.steps_le
  · exact Rounds.start.exists_ends
  · intro n outcome hends
    exact hends.le
  · intro hhead hdot n outcome hends
    rw [hends.eq_scan, String.toList_ofList, read_of_head hhead hdot]
    cases scan (Text.trim expression.toList) <;> rfl
  · intro sel hread
    exact steps_le_of_read hread

/-- A name of two bytes, a dot that is dropped, and an index: three passes, and no cut within the
    name. -/
example : cuts 0 ".\"é\".[ +1 ]".toList = [5, 6, 12] := by cbv

end RegistryProbe.Selector
