/-! # Byte strings

  Bodies, files and diagnostics are sequences of bytes. Text enters and leaves them as UTF-8:

  - `Bytes.ofText` gives the UTF-8 form of a text.
  - `Bytes.text?` reads it back and refuses bytes that are no UTF-8.

  The two are inverse to each other: `text?_eq_some_iff`.
-/

namespace RegistryProbe

/-- A finite sequence of bytes. -/
abbrev Bytes := List UInt8

namespace Bytes

/-- The UTF-8 form of a text. -/
def ofText (s : String) : Bytes := s.toByteArray.data.toList

/-- The text whose UTF-8 form the bytes are; `none` if there is none. -/
def text? (b : Bytes) : Option String := String.fromUTF8? ⟨b.toArray⟩

@[simp] theorem text?_ofText (s : String) : text? (ofText s) = some s := by
  simp [text?, ofText, String.fromUTF8?, s.isValidUTF8, String.fromUTF8]

theorem eq_ofText_of_text? {b : Bytes} {s : String} (h : text? b = some s) : b = ofText s := by
  unfold text? String.fromUTF8? at h
  split at h
  · obtain rfl := Option.some.inj h
    rfl
  · simp at h

/-- Bytes read as a text exactly when they are its UTF-8 form. -/
theorem text?_eq_some_iff {b : Bytes} {s : String} : text? b = some s ↔ b = ofText s :=
  ⟨eq_ofText_of_text?, fun h => h ▸ text?_ofText s⟩

theorem ofText_injective {s t : String} (h : ofText s = ofText t) : s = t := by
  have := text?_ofText s
  rw [h, text?_ofText] at this
  exact (Option.some.inj this).symm

@[simp] theorem ofText_append (s t : String) : ofText (s ++ t) = ofText s ++ ofText t := by
  simp [ofText, String.toByteArray_append]

/-- Each character is encoded for itself. -/
theorem ofText_eq_flatMap (text : String) :
    ofText text = text.toList.flatMap String.utf8EncodeChar := by
  have h : text = String.ofList text.toList := by simp
  rw [ofText, h, String.toByteArray_ofList]
  simp [List.utf8Encode]

theorem ofText_ofList_cons (c : Char) (t : List Char) :
    ofText (String.ofList (c :: t)) =
      ofText (String.singleton c) ++ ofText (String.ofList t) := by
  rw [ofText_eq_flatMap, ofText_eq_flatMap, ofText_eq_flatMap]
  simp

theorem length_ofText (s : String) : (ofText s).length = s.utf8ByteSize := rfl

theorem length_ofText_ofList_cons (c : Char) (t : List Char) :
    (ofText (String.ofList (c :: t))).length =
      c.utf8Size + (ofText (String.ofList t)).length := by
  rw [ofText_ofList_cons, List.length_append, length_ofText, String.utf8ByteSize_singleton]

end Bytes

end RegistryProbe
