import RegistryProbe.Proofs.Results
import RegistryProbe.Uri.Percent
import RegistryProbe.Uri.Reader

/-! # Paths as addresses

  An address may be a path alone. Whoever reads it cuts it at the first question mark or hash and
  decodes what is left, so a text may come out of it changed.

  - `Percent.HasEscape` says that a text holds an escape. A text without one stands for itself, and
    an escape is longer than the byte it stands for: `decode_of_no_escape`, `length_decode_lt`.
  - An address that begins with a slash is read as a path if its characters up to the cut are those
    of a path and it is not too long: `path_of_read`, `read_of_path`.
-/

namespace RegistryProbe.Uri

variable {t : List Char} {address : String} {u : Uri}

/-! ### Escapes -/

namespace Percent

/-- A text holds a percent sign in front of two hexadecimal digits. -/
inductive HasEscape : List Char → Prop where
  /-- At the front. -/
  | here {a b : Char} {x : UInt8} {rest : List Char} (digits : byte? a b = some x) :
      HasEscape ('%' :: a :: b :: rest)
  /-- Further on. -/
  | later {c : Char} {rest : List Char} (escape : HasEscape rest) : HasEscape (c :: rest)

theorem ofText_percent : Bytes.ofText (String.singleton '%') = [0x25] := by decide

/-- A text without escapes stands for itself. -/
theorem decode_of_no_escape (h : ¬ HasEscape t) : decode t = Bytes.ofText (String.ofList t) := by
  fun_induction decode t with
  | case1 a b rest x digits ih => exact absurd (.here digits) h
  | case2 a b rest digits ih =>
    rw [ih fun h' => h (.later h'), Bytes.ofText_ofList_cons '%', ofText_percent]
    rfl
  | case3 c rest no_escape ih => rw [ih fun h' => h (.later h'), Bytes.ofText_ofList_cons c]
  | case4 => rfl

/-- An escape is longer than the byte it stands for. -/
theorem length_decode_lt (h : HasEscape t) :
    (decode t).length < (Bytes.ofText (String.ofList t)).length := by
  have hpercent : '%'.utf8Size = 1 := by decide
  fun_induction decode t with
  | case1 a b rest x digits ih =>
    have hrest : (decode rest).length ≤ (Bytes.ofText (String.ofList rest)).length := by
      by_cases hescape : HasEscape rest
      · exact Nat.le_of_lt (ih hescape)
      · exact Nat.le_of_eq (by rw [decode_of_no_escape hescape])
    have hdigit := Char.utf8Size_pos a
    rw [Bytes.length_ofText_ofList_cons, Bytes.length_ofText_ofList_cons,
      Bytes.length_ofText_ofList_cons, List.length_cons]
    omega
  | case2 a b rest digits ih =>
    cases h with
    | here digits' => cases digits.symm.trans digits'
    | later escape =>
      have hrest := ih escape
      rw [Bytes.length_ofText_ofList_cons '%', List.length_cons]
      omega
  | case3 c rest no_escape ih =>
    cases h with
    | here digits => exact absurd rfl (no_escape _ _ _ rfl)
    | later escape =>
      have hrest := ih escape
      rw [Bytes.length_ofText_ofList_cons c, List.length_append, Bytes.length_ofText,
        String.utf8ByteSize_singleton]
      omega
  | case4 => cases h

/-- Decoding never makes a text longer. -/
theorem length_decode_le (t : List Char) :
    (decode t).length ≤ (Bytes.ofText (String.ofList t)).length := by
  by_cases h : HasEscape t
  · exact Nat.le_of_lt (length_decode_lt h)
  · exact Nat.le_of_eq (by rw [decode_of_no_escape h])

end Percent

/-! ### Addresses that begin with a slash -/

/-- The URI that is a path alone. -/
def ofPath (path : String) : Uri := ⟨none, "", path, none⟩

/-- What stands in front of the first question mark or hash. -/
def beforeMarks (t : List Char) : List Char := t.takeWhile fun c => c ≠ '?' && c ≠ '#'

theorem beforeMarks_prefix (t : List Char) : beforeMarks t <+: t := List.takeWhile_prefix _

/-- No character of a path is a question mark or a hash. -/
theorem isPathChar_ne {c : Char} (h : isPathChar c = true) : (c ≠ '?' && c ≠ '#') = true := by
  by_cases hquestion : c = '?'
  · subst hquestion
    revert h
    decide
  · by_cases hhash : c = '#'
    · subst hhash
      revert h
      decide
    · simp [hquestion, hhash]

theorem beforeMarks_append (h : ∀ c ∈ t, isPathChar c = true) (more : List Char) :
    beforeMarks (t ++ more) = t ++ beforeMarks more :=
  List.takeWhile_append_of_pos fun c hc => isPathChar_ne (h c hc)

theorem read_of_slash (h : address.toList.head? = some '/') :
    read address =
      if maxLength < address.utf8ByteSize then .error .tooLong else readPath address.toList := by
  obtain ⟨rest, hrest⟩ := List.head?_eq_some_iff.1 h
  rw [read, hrest]
  simp

/-- The path in front of a query or a fragment. -/
theorem path_of_pathAndQuery? {path : String} {query : Option String}
    (h : pathAndQuery? t = .ok (path, query)) :
    path = String.ofList (beforeMarks t) ∧ ∀ c ∈ beforeMarks t, isPathChar c = true := by
  unfold pathAndQuery? at h
  dsimp only at h
  rw [← beforeMarks] at h
  split at h
  next => cases h
  next hchars =>
    have hchars : ∀ c ∈ beforeMarks t, isPathChar c = true := by simpa using hchars
    split at h
    next =>
      split at h
      next => cases h
      next =>
        cases h
        exact ⟨rfl, hchars⟩
    next =>
      cases h
      exact ⟨rfl, hchars⟩

/-- What is read of an address that begins with a slash. -/
theorem path_of_read (hslash : address.toList.head? = some '/') (h : read address = .ok u) :
    address.utf8ByteSize ≤ maxLength ∧
      u.effectivePath = String.ofList (beforeMarks address.toList) ∧
      ∀ c ∈ beforeMarks address.toList, isPathChar c = true := by
  rw [read_of_slash hslash] at h
  split at h
  next => cases h
  next hlength =>
    obtain ⟨⟨path, query⟩, hpath, hu⟩ := ok_bind_iff.1 h
    cases hu
    exact ⟨Nat.le_of_not_lt hlength, path_of_pathAndQuery? hpath⟩

/-- An address of nothing but the characters of a path is read as this path. -/
theorem read_of_path (hslash : address.toList.head? = some '/')
    (hlength : address.utf8ByteSize ≤ maxLength)
    (hchars : ∀ c ∈ address.toList, isPathChar c = true) :
    read address = .ok (ofPath address) := by
  have hwhole : beforeMarks address.toList = address.toList := by
    simpa [beforeMarks] using beforeMarks_append hchars []
  have hpath : pathAndQuery? address.toList = .ok (address, none) := by
    unfold pathAndQuery?
    dsimp only
    rw [← beforeMarks, hwhole, List.drop_length, String.ofList_toList]
    simpa using hchars
  rw [read_of_slash hslash, if_neg (Nat.not_lt.2 hlength), readPath, hpath]
  rfl

end RegistryProbe.Uri
