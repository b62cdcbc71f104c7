import RegistryProbe.Proofs.Files.Writing

/-! # The places that paths name

  Without links a path names one place, whether or not anything stands there. The place depends on
  the names in the path and on where it starts. So texts that differ may name the same place: `a//b`
  and `a/b` do, and so do a relative path and the same path written out from the root.

  - A file that is written under a path stands at the place that the path names:
    `eq_named_of_fileTarget`. What is found under a path stands there too: `eq_named_of_locate`.
  - The names `.` and `..` apart, a path names the place of its own names: `named_of_proper`.
  - A suffix without slashes names a place beside the path itself, or below it if the path asks for
    a directory: `names_append_cases`. Either way it names another place, and paths with one suffix
    name the same place only if they do so without it: `named_append_ne`, `named_append_inj`.
-/

namespace RegistryProbe.Files

namespace PathText

variable {path suffix name : String}

/-! ### Names -/

theorem ne_empty_of_mem_names (h : name ∈ names path) : name ≠ "" := by
  obtain ⟨piece, hpiece, rfl⟩ := List.mem_map.1 h
  have hne : piece ≠ [] := by simpa [Text.parts] using (List.mem_filter.1 hpiece).2
  intro hempty
  exact hne (by simpa using congrArg String.toList hempty)

/-- Behind a slash, or behind nothing at all, a suffix is a name of its own. -/
theorem names_append_of_slash (hpath : path = "" ∨ endsInSlash path = true)
    (hsuffix : '/' ∉ suffix.toList) (hne : suffix ≠ "") :
    names (path ++ suffix) = names path ++ [suffix] := by
  have hfront : path.toList = [] ∨ ∃ s, path.toList = s ++ ['/'] := by
    rcases hpath with h | h
    · exact .inl (by simp [h])
    · have hlast : path.toList.getLast? = some '/' := by simpa [endsInSlash] using h
      exact .inr (List.getLast?_eq_some_iff.1 hlast)
  have hparts := Text.parts_append_of_not_mem hfront hsuffix (by simpa using hne)
  simp [names, hparts]

/-- What a suffix does to the names of a path: it lengthens the last one, or it is a further one. -/
theorem names_append_cases (path : String) (hsuffix : '/' ∉ suffix.toList) (hne : suffix ≠ "") :
    names (path ++ suffix) = names path ++ [suffix] ∨
      ∃ front name, name ≠ "" ∧ names path = front ++ [name] ∧
        names (path ++ suffix) = front ++ [name ++ suffix] := by
  by_cases hpath : path = "" ∨ endsInSlash path = true
  · exact .inl (names_append_of_slash hpath hsuffix hne)
  · right
    obtain ⟨hempty, hslash⟩ := not_or.1 hpath
    have hslash : endsInSlash path = false := by simpa using hslash
    -- a path that does not end in a slash has a last name
    have hnames : names path ≠ [] := by
      intro hnil
      obtain ⟨front, last, hsplit, hlast, hfront⟩ := Text.exists_last_piece '/' path.toList
      by_cases hlast_ne : last = []
      · subst hlast_ne
        rcases hfront with rfl | ⟨s, rfl⟩
        · exact hempty (by simpa using hsplit)
        · simp [endsInSlash, hsplit] at hslash
      · have hparts := Text.parts_append_of_not_mem hfront hlast hlast_ne
        simp [names, hsplit, hparts] at hnil
    have hlast := List.dropLast_concat_getLast hnames
    refine ⟨_, (names path).getLast hnames, ?_, hlast.symm, ?_⟩
    · exact ne_empty_of_mem_names (List.getLast_mem hnames)
    · exact names_append_suffix (List.getLast?_eq_some_getLast hnames) hslash hsuffix

theorem isAbsolute_append_suffix (path : String) (hsuffix : isAbsolute suffix = false) :
    isAbsolute (path ++ suffix) = isAbsolute path := by
  by_cases hempty : path = ""
  · subst hempty
    rw [String.empty_append, hsuffix]
    rfl
  · exact isAbsolute_append hempty

end PathText

namespace Disk

variable {d e : Disk} {p : Location} {path other suffix : String}

/-! ### Places -/

/-- The place that a path names. -/
def named (d : Disk) (path : String) : Location :=
  destination (d.startOf path) (PathText.names path)

theorem named_congr (h : e.home = d.home) (path : String) : e.named path = d.named path := by
  simp [named, startOf, h]

theorem eq_named_of_reach {parent : Location} {name : String}
    (hparent : d.parentOf path = .ok parent)
    (hname : (PathText.names path).getLast? = some name) : reach parent name = d.named path := by
  obtain ⟨front, hfront⟩ := List.getLast?_eq_some_iff.1 hname
  have hwalk := (parentOf_eq_ok_iff.1 hparent).2
  rw [hfront, List.dropLast_concat] at hwalk
  obtain ⟨-, -, rfl⟩ := walk_eq_ok_iff.1 hwalk
  rw [named, hfront, destination_append]
  rfl

theorem eq_named_of_fileTarget (h : d.fileTarget path = .ok p) : p = d.named path := by
  obtain ⟨parent, name, hparent, hname, -, hproper, -, rfl, -⟩ := fileTarget_eq_ok_iff.1 h
  rw [← eq_named_of_reach hparent hname, reach_of_isProper hproper]

theorem eq_named_of_locate (h : d.locate path = .ok p) : p = d.named path := by
  obtain ⟨parent, hparent, ⟨hnone, rfl⟩ | ⟨name, hname, -, rfl, -⟩⟩ := locate_eq_ok_iff.1 h
  · have hnil : PathText.names path = [] := List.getLast?_eq_none_iff.1 hnone
    have hwalk := (parentOf_eq_ok_iff.1 hparent).2
    rw [hnil] at hwalk
    obtain ⟨-, -, rfl⟩ := walk_eq_ok_iff.1 hwalk
    rw [named, hnil]
    rfl
  · exact eq_named_of_reach hparent hname

/-! ### Paths without special names -/

/-- A path without the names `.` and `..`. -/
def IsDirect (path : String) : Prop := ∀ name ∈ PathText.names path, isProper name = true

theorem destination_of_proper {names : List String} (h : ∀ name ∈ names, isProper name = true)
    (p : Location) : destination p names = p ++ names := by
  induction names generalizing p with
  | nil => simp
  | cons name names ih =>
    rw [destination_cons, reach_of_isProper (h name List.mem_cons_self),
      ih fun n hn => h n (List.mem_cons_of_mem name hn), List.append_assoc]
    rfl

theorem named_of_proper (h : IsDirect path) (d : Disk) :
    d.named path = d.startOf path ++ PathText.names path :=
  destination_of_proper h _

/-- Of paths that start at the same place, those with the same names name the same place. -/
theorem named_eq_iff (h : IsDirect path) (h' : IsDirect other)
    (hstart : PathText.isAbsolute path = PathText.isAbsolute other) (d : Disk) :
    d.named path = d.named other ↔ PathText.names path = PathText.names other := by
  have hsame : d.startOf path = d.startOf other := by rw [startOf, startOf, hstart]
  rw [named_of_proper h, named_of_proper h', hsame, List.append_cancel_left_eq]

/-! ### A suffix -/

/-- A suffix that can stand behind a path without giving rise to special names: it holds no slash
    and is longer than those. -/
structure IsSuffix (suffix : String) : Prop where
  no_slash : '/' ∉ suffix.toList
  long : 2 < suffix.toList.length

namespace IsSuffix

theorem ne_empty (h : IsSuffix suffix) : suffix ≠ "" := by
  intro hempty
  subst hempty
  exact absurd h.long (by decide)

theorem relative (h : IsSuffix suffix) : PathText.isAbsolute suffix = false := by
  have hhead : suffix.toList.head? ≠ some '/' := fun hmem => h.no_slash (List.mem_of_head? hmem)
  simp [PathText.isAbsolute, hhead]

theorem isProper_append (h : IsSuffix suffix) (name : String) :
    isProper (name ++ suffix) = true := by
  have hother {special : String} (hshort : special.toList.length ≤ 2) :
      name ++ suffix ≠ special := by
    intro heq
    have hlength := congrArg (fun s => s.toList.length) heq
    have hlong := h.long
    simp only [String.toList_append, List.length_append] at hlength
    omega
  have hdot : name ++ suffix ≠ "." := hother (by decide)
  have hdots : name ++ suffix ≠ ".." := hother (by decide)
  simp [isProper, hdot, hdots]

theorem startOf_append (h : IsSuffix suffix) (d : Disk) (path : String) :
    d.startOf (path ++ suffix) = d.startOf path := by
  rw [startOf, startOf, PathText.isAbsolute_append_suffix path h.relative]

end IsSuffix

/-- What a suffix does to the place of a path. -/
theorem named_append_cases (hsuffix : IsSuffix suffix) (h : IsDirect path) (d : Disk) :
    d.named (path ++ suffix) = d.named path ++ [suffix] ∨
      ∃ front name, name ≠ "" ∧ d.named path = front ++ [name] ∧
        d.named (path ++ suffix) = front ++ [name ++ suffix] := by
  have hproper : isProper suffix = true := by simpa using hsuffix.isProper_append ""
  rcases PathText.names_append_cases path hsuffix.no_slash hsuffix.ne_empty with
    hnames | ⟨front, name, hname, hpath, hnames⟩
  · left
    have hlonger : IsDirect (path ++ suffix) := by
      intro n hn
      rw [hnames, List.mem_append, List.mem_singleton] at hn
      rcases hn with hn | rfl
      · exact h n hn
      · exact hproper
    rw [named_of_proper hlonger, named_of_proper h, hsuffix.startOf_append, hnames,
      List.append_assoc]
  · right
    have hlonger : IsDirect (path ++ suffix) := by
      intro n hn
      rw [hnames, List.mem_append, List.mem_singleton] at hn
      rcases hn with hn | rfl
      · exact h n (by rw [hpath]; exact List.mem_append_left _ hn)
      · exact hsuffix.isProper_append name
    refine ⟨d.startOf path ++ front, name, hname, ?_, ?_⟩
    · rw [named_of_proper h, hpath, List.append_assoc]
    · rw [named_of_proper hlonger, hsuffix.startOf_append, hnames, List.append_assoc]

/-- With a suffix a path names another place. -/
theorem named_append_ne (hsuffix : IsSuffix suffix) (h : IsDirect path) (d : Disk) :
    d.named (path ++ suffix) ≠ d.named path := by
  intro heq
  rcases named_append_cases hsuffix h d with hlonger | ⟨front, name, -, hpath, hlonger⟩
  · rw [hlonger] at heq
    simp at heq
  · rw [hlonger, hpath, List.append_cancel_left_eq, List.cons.injEq] at heq
    exact hsuffix.ne_empty (String.append_eq_left_iff.1 heq.1)

/-- Paths that name the same place with a suffix do so without it. -/
theorem named_append_inj (hsuffix : IsSuffix suffix) (h : IsDirect path) (h' : IsDirect other)
    (heq : d.named (path ++ suffix) = d.named (other ++ suffix)) :
    d.named path = d.named other := by
  -- a name that is the suffix alone does not come from lengthening another name
  have hcross {front front' : Location} {name : String} (hname : name ≠ "") :
      front ++ [suffix] ≠ front' ++ [name ++ suffix] := by
    intro heq
    have hlast : suffix = name ++ suffix := by
      simpa using congrArg List.getLast? heq
    exact hname (String.append_eq_right_iff.1 hlast.symm)
  rcases named_append_cases hsuffix h d with hpath | ⟨front, name, hname, hpath, hlonger⟩
  · rcases named_append_cases hsuffix h' d with hother | ⟨front', name', hname', hother, hlonger'⟩
    · rw [hpath, hother] at heq
      exact List.append_cancel_right heq
    · rw [hpath, hlonger'] at heq
      exact absurd heq (hcross hname')
  · rcases named_append_cases hsuffix h' d with hother | ⟨front', name', hname', hother, hlonger'⟩
    · rw [hlonger, hother] at heq
      exact absurd heq.symm (hcross hname)
    · rw [hlonger, hlonger'] at heq
      obtain ⟨rfl, hlast⟩ := List.append_inj' heq rfl
      have hlast : name ++ suffix = name' ++ suffix := (List.cons.inj hlast).1
      rw [hpath, hother, (String.append_left_inj suffix).1 hlast]

end Disk

end RegistryProbe.Files
