import RegistryProbe.Text.Visible

/-! # Reading a rendering back

  Renderings are one to four bytes long and run together without marks between them. Three things
  make them ambiguous: a caret of the body looks like the caret in front of a control byte, the byte
  `0xDE` is written `M-^` and so ends in one, and an `M` in front of a `-` looks like the mark of a
  byte with the high bit. A body without them is read back:

  - What a byte below 128 is written as tells the byte, and shows by its first byte how long it is:
    `CaretForm`, `caretForm_caret`.
  - A rendering begins with `-` for the byte `-` alone, so an `M` of a clear body is followed by no
    `-` in the rendering either: `eq_of_head?_escape`.
  - One byte is taken off the front, whatever follows it: `reveal_render_append`.
-/

namespace RegistryProbe.Text.Visible

variable {b : UInt8} {w rest body : Bytes}

/-! ### Forms of a byte -/

/-- The unambiguous forms of a byte below 128. -/
inductive CaretForm : UInt8 → Bytes → Prop where
  /-- The byte itself, if it is no caret. -/
  | plain {b : UInt8} (ne_caret : b ≠ 0x5E) : CaretForm b [b]
  /-- A caret and the sign of the byte. -/
  | control {b x : UInt8} (sign : uncaret x = b) : CaretForm b [0x5E, x]

/-- The sign of a control byte tells the byte. -/
theorem uncaret_add (h : b < 0x20) : uncaret (b + 0x40) = b := by
  have hne : b + 0x40 ≠ 0x3F := by
    intro heq
    have hb : b = 0x3F - 0x40 := by rw [← heq, UInt8.add_sub_cancel]
    rw [hb] at h
    exact absurd h (by decide)
  rw [uncaret, if_neg hne, UInt8.add_sub_cancel]

theorem caretForm_caret (h : b ≠ 0x5E) : CaretForm b (caret b) := by
  unfold caret
  split
  next hcontrol => exact .control (uncaret_add hcontrol)
  next =>
    split
    next hdel =>
      subst hdel
      exact .control rfl
    next => exact .plain h

/-! ### Taking one byte off the front -/

/-- A byte that is neither a caret nor the beginning of the mark stands for itself. -/
theorem reveal_plain (hcaret : b ≠ 0x5E) (hmark : b = 0x4D → rest.head? ≠ some 0x2D) :
    reveal (b :: rest) = b :: reveal rest := by
  rw [reveal.eq_def]
  split
  next heq =>
    obtain ⟨rfl, rfl⟩ := List.cons.inj heq
    exact absurd rfl (hmark rfl)
  next heq =>
    obtain ⟨rfl, rfl⟩ := List.cons.inj heq
    exact absurd rfl (hmark rfl)
  next heq =>
    obtain ⟨rfl, -⟩ := List.cons.inj heq
    exact absurd rfl hcaret
  next heq =>
    obtain ⟨rfl, rfl⟩ := List.cons.inj heq
    rfl
  next heq => exact absurd heq (List.cons_ne_nil _ _)

theorem reveal_caretForm (h : CaretForm b w) (hmark : b = 0x4D → rest.head? ≠ some 0x2D) :
    reveal (w ++ rest) = b :: reveal rest := by
  cases h with
  | plain ne_caret => exact reveal_plain ne_caret hmark
  | control sign =>
    subst sign
    rfl

/-- Behind the mark any byte may follow, since a form shows where it ends. -/
theorem reveal_mark (h : CaretForm b w) :
    reveal (0x4D :: 0x2D :: (w ++ rest)) = (b + 0x80) :: reveal rest := by
  cases h with
  | plain ne_caret =>
    show reveal (0x4D :: 0x2D :: b :: rest) = _
    rw [reveal]
    intro _ _ heq
    exact absurd heq ne_caret
  | control sign =>
    subst sign
    rfl

/-- The rendering of a byte is read back, whatever follows it. -/
theorem reveal_render_append (hcaret : b ≠ 0x5E) (hhigh : b ≠ 0xDE)
    (hmark : b = 0x4D → rest.head? ≠ some 0x2D) :
    reveal (render b ++ rest) = b :: reveal rest := by
  unfold render
  split
  next => exact reveal_caretForm (.plain hcaret) hmark
  next =>
    split
    next => exact reveal_caretForm (caretForm_caret hcaret) hmark
    next =>
      have hlow : b - 0x80 ≠ 0x5E := by
        intro heq
        apply hhigh
        rw [← UInt8.sub_add_cancel b 0x80, heq]
        rfl
      have hread : reveal (0x4D :: 0x2D :: (caret (b - 0x80) ++ rest)) =
          (b - 0x80 + 0x80) :: reveal rest := reveal_mark (caretForm_caret hlow)
      rwa [UInt8.sub_add_cancel] at hread

/-! ### Whole bodies -/

/-- A body that holds none of the three ambiguities. -/
structure IsClear (body : Bytes) : Prop where
  /-- No caret. -/
  no_caret : 0x5E ∉ body
  /-- No caret with the high bit. -/
  no_high_caret : 0xDE ∉ body
  /-- No `M` in front of a `-`. -/
  no_mark : ¬ [0x4D, 0x2D] <:+: body

theorem IsClear.tail (h : IsClear (b :: body)) : IsClear body where
  no_caret := mt (List.mem_cons_of_mem b) h.no_caret
  no_high_caret := mt (List.mem_cons_of_mem b) h.no_high_caret
  no_mark := fun hmark => h.no_mark (hmark.trans (List.suffix_cons b body).isInfix)

theorem IsClear.head?_ne (h : IsClear (0x4D :: body)) : body.head? ≠ some 0x2D := by
  intro hhead
  obtain ⟨rest, rfl⟩ := List.head?_eq_some_iff.1 hhead
  exact h.no_mark ⟨[], rest, rfl⟩

/-- Only `-` itself is written with `-` in front. -/
theorem eq_of_head?_render (h : (render b ++ rest).head? = some 0x2D) : b = 0x2D := by
  unfold render caret at h
  split at h
  next => simpa using h
  next =>
    split at h
    next =>
      split at h
      next => simp at h
      next =>
        split at h
        next => simp at h
        next => simpa using h
    next => simp at h

theorem head?_of_head?_escape (h : (escape body).head? = some 0x2D) :
    body.head? = some 0x2D := by
  match body with
  | [] => simp at h
  | b :: body =>
    rw [escape_cons] at h
    rw [List.head?_cons, eq_of_head?_render h]

/-- Clear bodies are read back from their renderings. -/
theorem reveal_escape (h : IsClear body) : reveal (escape body) = body := by
  induction body with
  | nil => rfl
  | cons b body ih =>
    have hcaret : b ≠ 0x5E := fun heq => h.no_caret (heq ▸ List.mem_cons_self)
    have hhigh : b ≠ 0xDE := fun heq => h.no_high_caret (heq ▸ List.mem_cons_self)
    have hmark : b = 0x4D → (escape body).head? ≠ some 0x2D := by
      intro heq hhead
      subst heq
      exact h.head?_ne (head?_of_head?_escape hhead)
    rw [escape_cons, reveal_render_append hcaret hhigh hmark, ih h.tail]

/-- A clear body is recovered from its rendering, and so no other clear body is rendered alike. -/
theorem clear_bodies_are_recovered {body other : Bytes} (h : IsClear body) (h' : IsClear other) :
    reveal (escape body) = body ∧ (escape body = escape other → body = other) := by
  refine ⟨reveal_escape h, ?_⟩
  intro heq
  rw [← reveal_escape h, heq, reveal_escape h']

/-- The one body is written `M-M-M-^_` and the other `MM--M-^_`. -/
theorem clear_bodies_are_recovered_beside_marks :
    let body : Bytes := [0xCD, 0x2D, 0x9F]
    let other : Bytes := [0x4D, 0xAD, 0x9F]
    IsClear body ∧ IsClear other ∧ reveal (escape body) = body ∧ escape body ≠ escape other := by
  intro body other
  have h : IsClear body := ⟨by decide, by decide, by decide⟩
  have h' : IsClear other := ⟨by decide, by decide, by decide⟩
  obtain ⟨hread, hinj⟩ := clear_bodies_are_recovered h h'
  exact ⟨h, h', hread, fun heq => absurd (hinj heq) (by decide)⟩

/-- Each of the three ambiguities is one: there are two bodies with one rendering. -/
example : escape [0x5E, 0x40] = escape [0x00] ∧ escape [0xDE, 0x40] = escape [0x80] ∧
    escape [0x4D, 0x2D, 0x41] = escape [0xC1] := by decide

end RegistryProbe.Text.Visible
