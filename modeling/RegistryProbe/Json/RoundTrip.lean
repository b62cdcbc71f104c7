import RegistryProbe.Json.Reader
import RegistryProbe.Json.Writer

/-! # What is written is read back

  The text of a document without numbers is read back as the document, with the members of its
  objects in order (`ofBytes?_toBytes`). It takes three steps:

  - A character of a string is read back from its escaped form.
  - The tokens of a text are read back from their texts in a row.
  - The reader rebuilds a document from its tokens, as long as it does not nest too deep.

  Numbers stand apart because the text of a double is its bit pattern, which no JSON reader takes.
-/

namespace RegistryProbe.Json

namespace Token

/-! ### Characters -/

theorem codeUnit?_padded {n : Nat} (h : n < 0x10000) (rest : List Char) :
    codeUnit? (Text.Hex.padded 4 n ++ rest) = some (n, rest) := by
  have hdigit (k : Nat) : Text.Hex.digitValue? (Text.Hex.digit (k % 16)) = some (k % 16) :=
    Text.Hex.digitValue?_digit (Nat.mod_lt k (by decide))
  have hvalue : ((n / 16 / 16 / 16 % 16 * 16 + n / 16 / 16 % 16) * 16 + n / 16 % 16) * 16
      + n % 16 = n := by omega
  simp [Text.Hex.padded, codeUnit?, hdigit, hvalue]

theorem character?_encodeChar (c : Char) (rest : List Char) :
    character? (encodeChar c ++ rest) = some (c, rest) := by
  unfold encodeChar
  split
  · next h =>
    rcases h with rfl | rfl <;> rfl
  · next hquote =>
    split
    · next h => subst h; rfl
    · split
      · next h => subst h; rfl
      · split
        · next h => subst h; rfl
        · split
          · next h => subst h; rfl
          · split
            · next h => subst h; rfl
            · split
              · next h =>
                -- a control character is given by its number, which is no half of a pair
                have hunit := codeUnit?_padded (n := c.toNat) (by omega) rest
                have htrail : isTrailing c.toNat = false := by
                  simp only [isTrailing, Bool.and_eq_false_iff, decide_eq_false_iff_not]
                  omega
                have hlead : isLeading c.toNat = false := by
                  simp only [isLeading, Bool.and_eq_false_iff, decide_eq_false_iff_not]
                  omega
                show numbered? (Text.Hex.padded 4 c.toNat ++ rest) = some (c, rest)
                simp [numbered?, hunit, htrail, hlead]
              · next hlow =>
                have hslash : c ≠ '\\' := fun h => hquote (Or.inr h)
                simp [character?, hslash, hlow]

/-- The written form of a character does not begin with a quote. -/
theorem encodeChar_ne_quote (c : Char) (rest tail : List Char) :
    encodeChar c ++ rest ≠ '"' :: tail := by
  intro h
  have hread := character?_encodeChar c rest
  rw [h] at hread
  have hc : c = '"' := by
    simp only [character?] at hread
    split at hread
    · next hbad => exact absurd hbad (by decide)
    · split at hread
      · simp at hread
      · simp only [Option.some.injEq, Prod.mk.injEq] at hread
        exact hread.1.symm
  subst hc
  simp [encodeChar] at h

theorem content?_encode (done s rest : List Char) :
    content? done (s.flatMap encodeChar ++ '"' :: rest) =
      some (String.ofList (done.reverse ++ s), rest) := by
  induction s generalizing done with
  | nil =>
    show content? done ('"' :: rest) = _
    rw [content?.eq_def]
    simp
  | cons c s ih =>
    have htext : (c :: s).flatMap encodeChar ++ '"' :: rest =
        encodeChar c ++ (s.flatMap encodeChar ++ '"' :: rest) := by simp
    rw [htext, content?.eq_def]
    split
    · next hq => exact absurd hq (encodeChar_ne_quote _ _ _)
    · split
      · next hnone =>
        rw [character?_encodeChar] at hnone
        simp at hnone
      · next d r hsome =>
        rw [character?_encodeChar] at hsome
        simp only [Option.some.injEq, Prod.mk.injEq] at hsome
        obtain ⟨rfl, rfl⟩ := hsome
        rw [ih]
        simp

/-! ### Tokens -/

/-- Every token but a number. -/
def isPlain : Token → Bool
  | number _ => false
  | _ => true

theorem next?_text {k : Token} (h : k.isPlain = true) (rest : List Char) :
    next? (k.text ++ rest) = some (k, rest) := by
  match k with
  | openArray | closeArray | openObject | closeObject | comma | colon | null => rfl
  | bool true | bool false => rfl
  | string s =>
    have hcontent := content?_encode [] s.toList rest
    have htext : text (string s) ++ rest = '"' :: (s.toList.flatMap encodeChar ++ '"' :: rest) := by
      simp [text]
    rw [htext]
    show (content? [] _).map _ = _
    rw [hcontent]
    simp
  | number n => simp [isPlain] at h

theorem exists_text_eq_cons {k : Token} (h : k.isPlain = true) :
    ∃ c t, k.text = c :: t ∧ isBlank c = false := by
  match k with
  | openArray | closeArray | openObject | closeObject | comma | colon | null =>
    exact ⟨_, _, rfl, rfl⟩
  | bool true | bool false => exact ⟨_, _, rfl, rfl⟩
  | string s => exact ⟨_, _, rfl, rfl⟩
  | number n => simp [isPlain] at h

theorem lexFrom?_text (done ts : List Token) (h : ts.all isPlain = true) :
    lexFrom? done (ts.flatMap text) = some (done.reverse ++ ts) := by
  induction ts generalizing done with
  | nil =>
    rw [List.flatMap_nil, lexFrom?]
    simp
  | cons k ts ih =>
    simp only [List.all_cons, Bool.and_eq_true] at h
    obtain ⟨c, t, hct, hblank⟩ := exists_text_eq_cons h.1
    have hnext := next?_text h.1 (ts.flatMap text)
    rw [List.flatMap_cons]
    rw [hct, List.cons_append] at hnext ⊢
    rw [lexFrom?.eq_def]
    simp only [hblank, Bool.false_eq_true, if_false]
    split
    · next hnone =>
      rw [hnext] at hnone
      simp at hnone
    · next k' r hsome =>
      rw [hnext] at hsome
      simp only [Option.some.injEq, Prod.mk.injEq] at hsome
      obtain ⟨rfl, rfl⟩ := hsome
      rw [ih _ h.2]
      simp

/-- The tokens of a text that was written without numbers. -/
theorem lex?_text {ts : List Token} (h : ts.all isPlain = true) :
    lex? (ts.flatMap text) = some ts := by
  have := lexFrom?_text [] ts h
  simpa [lex?] using this

end Token

/-! ### Documents -/

mutual

/-- How deep arrays and objects nest in a document. -/
def depth : Json → Nat
  | .array items => 1 + itemsDepth items
  | .object members => 1 + membersDepth members
  | _ => 0

/-- How deep arrays and objects nest in items. -/
def itemsDepth : List Json → Nat
  | [] => 0
  | v :: vs => max (depth v) (itemsDepth vs)

/-- How deep arrays and objects nest in the values of members. -/
def membersDepth : List (String × Json) → Nat
  | [] => 0
  | (_, v) :: ms => max (depth v) (membersDepth ms)

end

mutual

/-- A document with the members of all its objects in order. -/
def ordered : Json → Json
  | .array items => .array (orderedItems items)
  | .object members => ofMembers (orderedMembers members)
  | d => d

/-- Items with the members of all objects in order. -/
def orderedItems : List Json → List Json
  | [] => []
  | v :: vs => ordered v :: orderedItems vs

/-- Members whose values have the members of all objects in order. -/
def orderedMembers : List (String × Json) → List (String × Json)
  | [] => []
  | (name, v) :: ms => (name, ordered v) :: orderedMembers ms

end

namespace Reader

/-- A document's tokens begin with a token that begins a value. -/
theorem exists_tokens_eq_cons (d : Json) :
    ∃ k ts, d.tokens = k :: ts ∧ k ≠ .closeArray := by
  cases d with
  | null => exact ⟨_, _, rfl, by decide⟩
  | bool b => exact ⟨_, _, rfl, by simp⟩
  | number n => exact ⟨_, _, rfl, by simp⟩
  | text s => exact ⟨_, _, rfl, by simp⟩
  | array items => exact ⟨_, _, rfl, by decide⟩
  | object members => exact ⟨_, _, rfl, by decide⟩

/-- The first item of an array is read like any other value. -/
theorem run_firstItem (frames : List Frame) (d : Json) (rest : List Token) :
    run ⟨frames, .firstItem⟩ (d.tokens ++ rest) = run ⟨frames, .value⟩ (d.tokens ++ rest) := by
  obtain ⟨k, ts, htokens, hk⟩ := exists_tokens_eq_cons d
  rw [htokens, List.cons_append, run_cons, run_cons]
  have hstep : step ⟨frames, .firstItem⟩ k = step ⟨frames, .value⟩ k := by
    cases k <;> first | rfl | exact absurd rfl hk
  rw [hstep]

mutual

/-- The tokens of a document bring the reader from waiting for a value to having it. -/
theorem run_tokens (d : Json) (frames : List Frame) (rest : List Token)
    (h : frames.length + d.depth ≤ maxDepth) :
    run ⟨frames, .value⟩ (d.tokens ++ rest) = run ⟨frames, .complete d.ordered⟩ rest := by
  match d with
  | .null => rfl
  | .bool b => rfl
  | .number n => rfl
  | .text s => rfl
  | .array [] =>
    have hlt : frames.length < maxDepth := by
      simp only [depth, itemsDepth] at h
      omega
    simp [tokens, itemTokens, separated, step, beginValue, hlt, ordered, orderedItems]
  | .array (v :: vs) =>
    simp only [depth, itemsDepth] at h
    have hlt : frames.length < maxDepth := by omega
    have hfirst := run_tokens v (.array [] :: frames)
      ((itemTokens vs).flatMap (.comma :: ·) ++ .closeArray :: rest)
      (by simp only [List.length_cons]; omega)
    have hrest := run_items vs [] v.ordered frames rest (by omega)
    have htokens : tokens (.array (v :: vs)) ++ rest = .openArray ::
        (v.tokens ++ ((itemTokens vs).flatMap (.comma :: ·) ++ .closeArray :: rest)) := by
      simp [tokens, itemTokens, separated]
    have hopen : step ⟨frames, .value⟩ .openArray = some ⟨.array [] :: frames, .firstItem⟩ := by
      simp [step, beginValue, hlt]
    rw [htokens, run_cons, hopen, Option.bind_some, run_firstItem, hfirst, hrest]
    rfl
  | .object [] =>
    have hlt : frames.length < maxDepth := by
      simp only [depth, membersDepth] at h
      omega
    simp [tokens, memberTokens, separated, step, beginValue, hlt, ordered, orderedMembers,
      ofMembers]
  | .object ((name, v) :: ms) =>
    simp only [depth, membersDepth] at h
    have hlt : frames.length < maxDepth := by omega
    have hfirst := run_tokens v (.object [] name :: frames)
      ((memberTokens ms).flatMap (.comma :: ·) ++ .closeObject :: rest)
      (by simp only [List.length_cons]; omega)
    have hrest := run_members ms [] name v.ordered frames rest (by omega)
    have htokens : tokens (.object ((name, v) :: ms)) ++ rest =
        .openObject :: .string name :: .colon ::
          (v.tokens ++ ((memberTokens ms).flatMap (.comma :: ·) ++ .closeObject :: rest)) := by
      simp [tokens, memberTokens, separated]
    have hopen : step ⟨frames, .value⟩ .openObject = some ⟨frames, .firstMember⟩ := by
      simp [step, beginValue, hlt]
    rw [htokens, run_cons, hopen, Option.bind_some, run_cons]
    show run ⟨.object [] name :: frames, .value⟩ _ = _
    rw [hfirst, hrest]
    rfl

/-- The tokens of further items bring the reader to the end of their array. -/
theorem run_items (vs done : List Json) (v : Json) (frames : List Frame) (rest : List Token)
    (h : frames.length + 1 + itemsDepth vs ≤ maxDepth) :
    run ⟨.array done :: frames, .complete v⟩
        ((itemTokens vs).flatMap (.comma :: ·) ++ .closeArray :: rest) =
      run ⟨frames, .complete (.array (done.reverse ++ v :: orderedItems vs))⟩ rest := by
  match vs with
  | [] =>
    show run ⟨frames, .complete (.array (v :: done).reverse)⟩ rest = _
    simp [orderedItems]
  | w :: vs =>
    simp only [itemsDepth] at h
    have hnext := run_tokens w (.array (v :: done) :: frames)
      ((itemTokens vs).flatMap (.comma :: ·) ++ .closeArray :: rest)
      (by simp only [List.length_cons]; omega)
    have hrest := run_items vs (v :: done) w.ordered frames rest (by omega)
    have htokens : (itemTokens (w :: vs)).flatMap (.comma :: ·) ++ .closeArray :: rest =
        .comma :: (w.tokens ++ ((itemTokens vs).flatMap (.comma :: ·) ++ .closeArray :: rest)) := by
      simp [itemTokens]
    rw [htokens, run_cons]
    show run ⟨.array (v :: done) :: frames, .value⟩ _ = _
    rw [hnext, hrest]
    simp [orderedItems]

/-- The tokens of further members bring the reader to the end of their object. -/
theorem run_members (ms done : List (String × Json)) (name : String) (v : Json)
    (frames : List Frame) (rest : List Token)
    (h : frames.length + 1 + membersDepth ms ≤ maxDepth) :
    run ⟨.object done name :: frames, .complete v⟩
        ((memberTokens ms).flatMap (.comma :: ·) ++ .closeObject :: rest) =
      run ⟨frames, .complete (.object ((orderedMembers ms).foldl
        (fun ms m => insertMember m.1 m.2 ms) (insertMember name v done)))⟩ rest := by
  match ms with
  | [] => rfl
  | (next, w) :: ms =>
    simp only [membersDepth] at h
    have hnext := run_tokens w (.object (insertMember name v done) next :: frames)
      ((memberTokens ms).flatMap (.comma :: ·) ++ .closeObject :: rest)
      (by simp only [List.length_cons]; omega)
    have hrest := run_members ms (insertMember name v done) next w.ordered frames rest (by omega)
    have htokens : (memberTokens ((next, w) :: ms)).flatMap (.comma :: ·) ++ .closeObject :: rest =
        .comma :: .string next :: .colon ::
          (w.tokens ++ ((memberTokens ms).flatMap (.comma :: ·) ++ .closeObject :: rest)) := by
      simp [memberTokens]
    rw [htokens, run_cons]
    show run ⟨.object (insertMember name v done) next :: frames, .value⟩ _ = _
    rw [hnext, hrest]
    rfl

end

end Reader

/-- The reader rebuilds a document from its tokens, with the members of its objects in order. -/
theorem ofTokens?_tokens {d : Json} (h : d.depth ≤ maxDepth) :
    ofTokens? d.tokens = some d.ordered := by
  have hrun := Reader.run_tokens d [] [] (by simpa using h)
  rw [List.append_nil] at hrun
  unfold ofTokens? Reader.start
  rw [hrun]
  rfl

/-- The text of a document without numbers is read back as the document. -/
theorem ofBytes?_toBytes {d : Json} (hplain : d.tokens.all Token.isPlain = true)
    (hdepth : d.depth ≤ maxDepth) : ofBytes? d.toBytes = some d.ordered := by
  have hlex := Token.lex?_text hplain
  simp [ofBytes?, toBytes, render, ofText?, hlex, ofTokens?_tokens hdepth]

end RegistryProbe.Json
