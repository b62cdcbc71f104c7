import RegistryProbe.Proofs.Diagnostics.Filling

/-! # The lines of a report

  A report shows the body that a failure came with and tells the failure in a last line. A body may
  hold any bytes, and none of them gets the better of that line: what is written is printable ASCII
  in lines, the lines of the body come first, each rendered for itself, and the last line is the
  same for all bodies.

  - `IsPlain` texts are printable ASCII, so they are part of one line: `isPrintable_of_isPlain`.
  - A rendering keeps the lines of a text, since only a newline is rendered as a newline:
    `splitOn_escape`.
  - What is shown of a body is the rendering of the body with its last line completed: `shown_eq`.
-/

namespace RegistryProbe

open Text.Visible

/-! ### Printable text -/

/-- A text of printable ASCII. -/
def IsPlain (text : String) : Prop := ∀ c ∈ text.toList, 0x20 ≤ c.toNat ∧ c.toNat ≤ 0x7E

instance (text : String) : Decidable (IsPlain text) := List.decidableBAll _ _

theorem IsPlain.append {first second : String} (h : IsPlain first) (h' : IsPlain second) :
    IsPlain (first ++ second) := by
  intro c hc
  rw [String.toList_append, List.mem_append] at hc
  rcases hc with hc | hc
  · exact h c hc
  · exact h' c hc

theorem isPlain_decimal (n : Nat) : IsPlain (Text.Decimal.text n) := by
  intro c hc
  rw [Text.Decimal.text, String.toList_ofList] at hc
  have hdigit := List.all_eq_true.1 (Text.Decimal.all_isDigit_digits n) c hc
  have hrange : 0x30 ≤ c.toNat ∧ c.toNat ≤ 0x39 := by
    rw [Text.Decimal.isDigit, Bool.and_eq_true, decide_eq_true_iff, decide_eq_true_iff] at hdigit
    exact hdigit
  omega

theorem isPrintable_iff {b : UInt8} : isPrintable b = true ↔ 0x20 ≤ b.toNat ∧ b.toNat ≤ 0x7E := by
  simp [isPrintable, UInt8.le_iff_toNat_le]

/-- A plain text is printable byte by byte. -/
theorem isPrintable_of_isPlain {text : String} (h : IsPlain text) {b : UInt8}
    (hb : b ∈ Bytes.ofText text) : isPrintable b = true := by
  rw [Bytes.ofText_eq_flatMap, List.mem_flatMap] at hb
  obtain ⟨c, hc, hb⟩ := hb
  have hplain := h c hc
  -- a character of ASCII is one byte, with the same number
  have hval : c.val.toNat = c.toNat := rfl
  have hone : c.utf8Size = 1 := by
    rw [Char.utf8Size_eq_one_iff, UInt32.le_iff_toNat_le, hval]
    exact hplain.2.trans (by decide)
  rw [String.utf8EncodeChar_eq_singleton hone, List.mem_singleton] at hb
  have hnat : b.toNat = c.toNat := by
    rw [hb, UInt32.toNat_toUInt8, hval]
    omega
  rwa [isPrintable_iff, hnat]

/-! ### Lines of a rendering -/

/-- What holds of all numbers below 256 holds of all bytes. -/
theorem forall_byte {p : UInt8 → Prop} (h : ∀ n : Fin 256, p (UInt8.ofNat n)) (b : UInt8) :
    p b := by
  have := h ⟨b.toNat, b.toNat_lt⟩
  simpa using this

/-- The rendering of a byte holds a newline for a newline alone. -/
theorem newline_mem_render_iff (b : UInt8) : 0x0A ∈ render b ↔ b = 0x0A := by
  revert b
  apply forall_byte
  decide +kernel

theorem render_ne_nil (b : UInt8) : render b ≠ [] := by
  revert b
  apply forall_byte
  decide +kernel

/-- A text without newlines lengthens the first line of what follows. -/
theorem splitOn_append_of_not_mem {front : Bytes} (h : 0x0A ∉ front) (rest : Bytes) :
    (front ++ rest).splitOn 0x0A = (rest.splitOn 0x0A).modifyHead (front ++ ·) := by
  obtain ⟨l, ls, hl⟩ := List.exists_cons_of_ne_nil (List.splitOn_ne_nil 0x0A rest)
  induction front with
  | nil =>
    rw [List.nil_append, hl]
    rfl
  | cons b front ih =>
    obtain ⟨hb, hfront⟩ := not_or.1 (mt List.mem_cons.2 h)
    rw [List.cons_append, List.splitOn_cons_eq_if_modifyHead, ih hfront, hl]
    simp [Ne.symm hb]

/-- The lines of a rendering are the renderings of the lines. -/
theorem splitOn_escape (body : Bytes) :
    (escape body).splitOn 0x0A = (body.splitOn 0x0A).map escape := by
  induction body with
  | nil => rfl
  | cons b body ih =>
    obtain ⟨l, ls, hl⟩ := List.exists_cons_of_ne_nil (List.splitOn_ne_nil 0x0A body)
    rw [escape_cons, List.splitOn_cons_eq_if_modifyHead]
    by_cases hb : b = 0x0A
    · -- a newline ends a line in both
      subst hb
      show (0x0A :: escape body).splitOn 0x0A = _
      rw [List.splitOn_cons_eq_if_modifyHead, ih]
      simp
    · rw [splitOn_append_of_not_mem (mt (newline_mem_render_iff b).1 hb), ih, hl]
      simp [hb]

/-! ### What is shown of a body -/

/-- A body with its last line completed: it ends in a newline, its own or an added one. -/
def completed (body : Bytes) : Bytes :=
  if body.getLast? = some 0x0A then body else body ++ [0x0A]

/-- The lines of a body. The empty body has one, which is empty. -/
def bodyLines (body : Bytes) : List Bytes := ((completed body).splitOn 0x0A).dropLast

theorem exists_completed_eq (body : Bytes) : ∃ front, completed body = front ++ [0x0A] := by
  unfold completed
  split
  next h => exact List.getLast?_eq_some_iff.1 h
  next => exact ⟨body, rfl⟩

theorem getLast?_escape_iff (body : Bytes) :
    (escape body).getLast? = some 0x0A ↔ body.getLast? = some 0x0A := by
  rcases List.eq_nil_or_concat' body with rfl | ⟨front, b, rfl⟩
  · simp
  · rw [escape_append, List.getLast?_concat, escape_cons, escape_nil, List.append_nil,
      List.getLast?_append_of_ne_nil _ (render_ne_nil b), Option.some_inj]
    constructor
    · intro h
      exact (newline_mem_render_iff b).1 (List.mem_of_getLast? h)
    · intro h
      subst h
      rfl

theorem shown_eq (body : Bytes) : Diagnostics.shown body = escape (completed body) := by
  unfold Diagnostics.shown completed
  dsimp only
  simp only [getLast?_escape_iff]
  split
  · rfl
  · rw [escape_append]
    rfl

/-! ### Reports -/

/-- The failures that a response with a body causes, told in printable ASCII. -/
inductive OfResponse (body : Bytes) : ProbeError → Prop where
  /-- The status was neither 200 nor 404. -/
  | unexpectedStatus {url : String} (status : UInt16) (url_plain : IsPlain url) :
      OfResponse body (.unexpectedStatus status url body)
  /-- The body is not what was expected. -/
  | mismatch {url expectation : String} (url_plain : IsPlain url)
      (expectation_plain : IsPlain expectation) :
      OfResponse body (.mismatch url expectation body)

namespace OfResponse

variable {body : Bytes} {e : ProbeError}

theorem body?_eq (h : OfResponse body e) : e.body? = some body := by
  cases h <;> rfl

theorem message_plain (h : OfResponse body e) : IsPlain e.message := by
  cases h with
  | unexpectedStatus status url_plain =>
    have hstatus := isPlain_decimal status.toNat
    have hfront : IsPlain "unexpected HTTP status " := by decide
    have hfrom : IsPlain " from " := by decide
    exact ((hfront.append hstatus).append hfrom).append url_plain
  | mismatch url_plain expectation_plain =>
    have hfront : IsPlain "response from " := by decide
    have hmiddle : IsPlain " does not satisfy `" := by decide
    have hend : IsPlain "`" := by decide
    exact (((hfront.append url_plain).append hmiddle).append expectation_plain).append hend

/-- What a report of the failure writes: the rendering of the completed body and then the line that
    tells the failure. -/
theorem output_eq (h : OfResponse body e) (program : String) :
    (Diagnostics.Step.report e).output program =
      escape (completed body) ++ Diagnostics.line program e.message := by
  simp [Diagnostics.Step.output, h.body?_eq, shown_eq]

end OfResponse

/-- The rendering of a body and a line of plain text are printable ASCII but for newlines and
    tabs. -/
theorem isHarmless_of_mem_report {program message : String}
    (h : IsPlain (program ++ ": error: " ++ message)) {body : Bytes} {b : UInt8}
    (hb : b ∈ escape body ++ Diagnostics.line program message) : isHarmless b = true := by
  rw [Diagnostics.line, List.mem_append, List.mem_append, List.mem_singleton] at hb
  rcases hb with hb | hb | hb
  · exact List.all_eq_true.1 (all_isHarmless_escape body) b hb
  · simp [isHarmless, isPrintable_of_isPlain h hb]
  · subst hb
    decide

/-- The lines of the completed body, each rendered, and then the line that tells the failure. The
    last newline has nothing behind it. -/
theorem splitOn_report {program message : String}
    (h : IsPlain (program ++ ": error: " ++ message)) (body : Bytes) :
    (escape (completed body) ++ Diagnostics.line program message).splitOn 0x0A =
      (bodyLines body).map escape ++
        [Bytes.ofText (program ++ ": error: " ++ message), []] := by
  obtain ⟨front, hfront⟩ := exists_completed_eq body
  have hnewline : escape [0x0A] = [0x0A] := rfl
  -- the line that tells the failure is plain, so it is one line
  have hline : 0x0A ∉ Bytes.ofText (program ++ ": error: " ++ message) := by
    intro hmem
    have := isPrintable_of_isPlain h hmem
    revert this
    decide
  rw [bodyLines, hfront, escape_append, hnewline, Diagnostics.line, List.append_assoc,
    List.singleton_append, List.splitOn_append_cons_self, List.splitOn_append_cons_self,
    List.splitOn_append_cons_self, List.splitOn_eq_singleton hline, List.splitOn_nil,
    List.dropLast_concat, splitOn_escape]
  rfl

/-- A report of a failure that a response has caused writes printable ASCII, newlines and tabs and
    nothing else, whatever the body. In lines it is the rendered lines of the body, followed by the
    one line that tells the failure. -/
theorem reports_keep_to_their_lines (program : String) (body : Bytes) (e : ProbeError)
    (before : Bytes) (program_plain : IsPlain program) (caused : OfResponse body e) :
    ∃ written, Diagnostics.report program e ⟨none, before⟩ =
        (.failed, ⟨none, before ++ written⟩) ∧
      (∀ b ∈ written, 0x20 ≤ b ∧ b ≤ 0x7E ∨ b = 0x0A ∨ b = 0x09) ∧
      written.splitOn 0x0A =
        (bodyLines body).map escape ++
          [Bytes.ofText (program ++ ": error: " ++ e.message), []] := by
  have hmiddle : IsPlain ": error: " := by decide
  have hplain := (program_plain.append hmiddle).append caused.message_plain
  refine ⟨_, Diagnostics.report_eq program e ⟨none, before⟩, ?_, ?_⟩
  · rw [caused.output_eq]
    intro b hb
    simpa [isHarmless, isPrintable, or_assoc] using isHarmless_of_mem_report hplain hb
  · rw [caused.output_eq]
    exact splitOn_report hplain body

/-- A body that rings, colours, returns to the beginning of its line and does not end it. -/
theorem report_of_control_sequences :
    let body : Bytes := [0x07, 0x1B, 0x5B, 0x33, 0x31, 0x6D, 0x0A, 0x8A, 0x0D]
    let e : ProbeError := .mismatch "http://host/crates/serde" ".crate" body
    IsPlain "registry-check" ∧ OfResponse body e ∧
      ∃ written, Diagnostics.report "registry-check" e ⟨none, []⟩ =
          (.failed, ⟨none, [] ++ written⟩) ∧
        (∀ b ∈ written, 0x20 ≤ b ∧ b ≤ 0x7E ∨ b = 0x0A ∨ b = 0x09) ∧
        written.splitOn 0x0A =
          (bodyLines body).map escape ++
            [Bytes.ofText ("registry-check" ++ ": error: " ++ e.message), []] := by
  have hprogram : IsPlain "registry-check" := by decide
  have hcaused (body : Bytes) :
      OfResponse body (.mismatch "http://host/crates/serde" ".crate" body) :=
    .mismatch (by decide) (by decide)
  exact ⟨hprogram, hcaused _, reports_keep_to_their_lines _ _ _ _ hprogram (hcaused _)⟩

/-- The lines that are shown of such a body. -/
example : (bodyLines [0x07, 0x1B, 0x5B, 0x0A, 0x8A, 0x0D]).map escape =
    [Bytes.ofText "^G^[[", Bytes.ofText "M-^J^M"] := by
  decide

/-- An empty body has one line. -/
example : (bodyLines []).map escape = [[]] := rfl

end RegistryProbe
