import RegistryProbe.Files.PathText

/-! # The names in composed paths

  Paths are composed as texts: a suffix is put behind a path, or a path is seen from a directory.
  Both are described here by the names in the result.

  - A suffix without slashes lengthens the last name and leaves the others alone:
    `names_append_suffix`.
  - A path that is seen from a directory has the names of the directory in front of its own:
    `names_join`.
-/

namespace RegistryProbe

namespace Text

/-! ### Pieces of composed texts -/

theorem pieces_append_mark (mark : Char) (s t : List Char) :
    pieces mark (s ++ mark :: t) = pieces mark s ++ pieces mark t := by
  induction s with
  | nil => simp [pieces]
  | cons c s ih =>
    by_cases hc : c = mark
    · simp [pieces, hc, ih]
    · have hne : pieces mark s ≠ [] := pieces_ne_nil mark s
      obtain ⟨p, ps, hp⟩ := List.exists_cons_of_ne_nil hne
      simp [pieces, hc, ih, hp]

theorem pieces_of_not_mem {mark : Char} {t : List Char} (h : mark ∉ t) :
    pieces mark t = [t] := by
  induction t with
  | nil => rfl
  | cons c t ih =>
    have hc : c ≠ mark := fun heq => h (by simp [heq])
    have ht : mark ∉ t := fun hm => h (by simp [hm])
    simp [pieces, hc, ih ht]

@[simp] theorem parts_nil (mark : Char) : parts mark [] = [] := by
  simp [parts, pieces]

theorem parts_append_mark (mark : Char) (s t : List Char) :
    parts mark (s ++ mark :: t) = parts mark s ++ parts mark t := by
  rw [parts, pieces_append_mark, List.filter_append]
  rfl

theorem parts_of_not_mem {mark : Char} {t : List Char} (h : mark ∉ t) (hne : t ≠ []) :
    parts mark t = [t] := by
  simp [parts, pieces_of_not_mem h, hne]

/-- A mark at the end of a text makes no further part. -/
theorem parts_append_mark_end (mark : Char) (s : List Char) :
    parts mark (s ++ [mark]) = parts mark s := by
  rw [parts_append_mark, parts_nil, List.append_nil]

/-- A text is what stands up to its last mark, followed by a text without marks. -/
theorem exists_last_piece (mark : Char) (t : List Char) :
    ∃ front last, t = front ++ last ∧ mark ∉ last ∧
      (front = [] ∨ ∃ s, front = s ++ [mark]) := by
  induction t with
  | nil => exact ⟨[], [], rfl, by simp, .inl rfl⟩
  | cons c t ih =>
    -- the first character joins what stands up to the last mark, if there is one
    obtain ⟨front, last, rfl, hlast, hfront⟩ := ih
    rcases hfront with rfl | ⟨s, rfl⟩
    · by_cases hc : c = mark
      · exact ⟨[c], last, rfl, hlast, .inr ⟨[], by simp [hc]⟩⟩
      · refine ⟨[], c :: last, rfl, ?_, .inl rfl⟩
        simp [Ne.symm hc, hlast]
    · exact ⟨c :: s ++ [mark], last, by simp, hlast, .inr ⟨c :: s, rfl⟩⟩

/-- Behind the last mark of a text stands its last part. -/
theorem parts_append_of_not_mem {mark : Char} {front last : List Char}
    (hfront : front = [] ∨ ∃ s, front = s ++ [mark]) (hlast : mark ∉ last) (hne : last ≠ []) :
    parts mark (front ++ last) = parts mark front ++ [last] := by
  rcases hfront with rfl | ⟨s, rfl⟩
  · simp [parts_of_not_mem hlast hne]
  · rw [List.append_assoc, List.singleton_append, parts_append_mark, parts_append_mark_end,
      parts_of_not_mem hlast hne]

end Text

namespace Files.PathText

/-! ### A suffix -/

/-- A suffix without slashes lengthens the last name of a path. -/
theorem names_append_suffix {path name suffix : String}
    (hname : (names path).getLast? = some name) (hslash : endsInSlash path = false)
    (hsuffix : '/' ∉ suffix.toList) :
    names (path ++ suffix) = (names path).dropLast ++ [name ++ suffix] := by
  obtain ⟨front, last, hsplit, hlast, hfront⟩ := Text.exists_last_piece '/' path.toList
  -- a path that does not end in a slash has a last piece that is not empty
  have hne : last ≠ [] := by
    intro h
    subst h
    rcases hfront with rfl | ⟨s, rfl⟩
    · simp [names, hsplit] at hname
    · simp [endsInSlash, hsplit] at hslash
  have hparts := Text.parts_append_of_not_mem hfront hlast hne
  -- the suffix lengthens this piece and makes no other
  have hlonger :
      Text.parts '/' (front ++ (last ++ suffix.toList)) =
        Text.parts '/' front ++ [last ++ suffix.toList] :=
    Text.parts_append_of_not_mem hfront (by simp [hlast, hsuffix]) (by simp [hne])
  have hnames : names path = (Text.parts '/' front).map String.ofList ++ [String.ofList last] := by
    simp [names, hsplit, hparts]
  have hname : String.ofList last = name := by simpa [hnames] using hname
  have hofList : String.ofList (last ++ suffix.toList) = String.ofList last ++ suffix := by
    simp [String.ofList_append]
  rw [hnames, List.dropLast_concat, ← hname, ← hofList]
  simp [names, hsplit, hlonger]

theorem isAbsolute_append {path suffix : String} (hne : path ≠ "") :
    isAbsolute (path ++ suffix) = isAbsolute path := by
  have : path.toList ≠ [] := by simpa using hne
  simp [isAbsolute, List.head?_append, List.head?_eq_some_head this]

/-! ### A path seen from a directory -/

/-- The names of a path that is seen from a directory. -/
theorem names_join {base tail : String} (h : isAbsolute tail = false) :
    names (join base tail) = names base ++ names tail := by
  unfold join names
  rw [if_neg (by simp [h])]
  by_cases hbase : base = ""
  · simp [hbase]
  · by_cases hslash : endsInSlash base = true
    · obtain ⟨s, hs⟩ : ∃ s, base.toList = s ++ ['/'] := by
        have : base.toList.getLast? = some '/' := by simpa [endsInSlash] using hslash
        exact List.getLast?_eq_some_iff.1 this
      simp [hslash, hs, Text.parts_append_mark]
    · have : (base ++ "/" ++ tail).toList = base.toList ++ '/' :: tail.toList := by simp
      simp only [hbase, hslash, or_self, if_false, Bool.false_eq_true]
      rw [this, Text.parts_append_mark, List.map_append]

theorem isAbsolute_join {base tail : String} (h : isAbsolute base = true) :
    isAbsolute (join base tail) = true := by
  have hne : base ≠ "" := by
    intro h'
    subst h'
    simp [isAbsolute] at h
  unfold join
  split
  · assumption
  · split
    · rw [isAbsolute_append hne, h]
    · rw [String.append_assoc, isAbsolute_append hne, h]

end Files.PathText

end RegistryProbe
