import RegistryProbe.ApiRoot

/-! # Joining at one slash

  The address of an endpoint is the root without the slashes at its end, one slash, and the endpoint
  without the slashes in front. A text has exactly one such form:

  - A text is slashes and a rest that begins with none, and reading off the rest forgets how many
    there were: `exists_leading`, `withoutLeading_slashes`. The end of a text is the same thing seen
    in a mirror: `exists_trailing`, `withoutTrailing_slashes`.
  - So two texts have the same rest exactly if they differ in these slashes alone:
    `withoutLeading_eq_iff`, `withoutTrailing_eq_iff`.
  - Addresses below one root are equal if the rests are, and the root can be read off an address:
    `url_eq_iff`, `root_eq_of_url_eq`.
-/

namespace RegistryProbe.ApiRoot

variable {t u : List Char} {root : ApiRoot} {base base' endpoint endpoint' : String}

/-! ### Slashes in front -/

theorem withoutLeading_slashes (n : Nat) (t : List Char) :
    withoutLeading (List.replicate n '/' ++ t) = withoutLeading t := by
  apply List.dropWhile_append_of_pos
  intro c hc
  have : c = '/' := List.eq_of_mem_replicate hc
  simp [this]

theorem withoutLeading_of_head?_ne (h : t.head? ≠ some '/') : withoutLeading t = t := by
  match t with
  | [] => rfl
  | c :: t =>
    have hc : ¬ c = '/' := fun heq => h (congrArg some heq)
    exact List.dropWhile_cons_of_neg (by simpa using hc)

theorem head?_withoutLeading_ne (t : List Char) : (withoutLeading t).head? ≠ some '/' := by
  intro h
  have hnot := List.head?_dropWhile_not (· = '/') t
  rw [show t.dropWhile (· = '/') = withoutLeading t from rfl, h] at hnot
  simp at hnot

theorem exists_leading (t : List Char) : ∃ n, t = List.replicate n '/' ++ withoutLeading t := by
  have hall : ∀ c ∈ t.takeWhile (· = '/'), c = '/' := by
    intro c hc
    have := List.all_eq_true.1 List.all_takeWhile c hc
    simpa using this
  refine ⟨(t.takeWhile (· = '/')).length, ?_⟩
  rw [← List.eq_replicate_of_mem hall]
  exact List.takeWhile_append_dropWhile.symm

/-- Two texts have the same rest behind the slashes in front exactly if these slashes are all they
    differ in. -/
theorem withoutLeading_eq_iff :
    withoutLeading t = withoutLeading u ↔
      ∃ rest m n, t = List.replicate m '/' ++ rest ∧ u = List.replicate n '/' ++ rest := by
  constructor
  · intro h
    obtain ⟨m, hm⟩ := exists_leading t
    obtain ⟨n, hn⟩ := exists_leading u
    rw [← h] at hn
    exact ⟨withoutLeading t, m, n, hm, hn⟩
  · intro h
    obtain ⟨rest, m, n, rfl, rfl⟩ := h
    rw [withoutLeading_slashes, withoutLeading_slashes]

/-! ### Slashes at the end -/

theorem withoutTrailing_slashes (t : List Char) (n : Nat) :
    withoutTrailing (t ++ List.replicate n '/') = withoutTrailing t := by
  rw [withoutTrailing, List.reverse_append, List.reverse_replicate, withoutLeading_slashes]
  rfl

theorem withoutTrailing_of_getLast?_ne (h : t.getLast? ≠ some '/') : withoutTrailing t = t := by
  rw [← List.head?_reverse] at h
  rw [withoutTrailing, withoutLeading_of_head?_ne h, List.reverse_reverse]

theorem getLast?_withoutTrailing_ne (t : List Char) :
    (withoutTrailing t).getLast? ≠ some '/' := by
  rw [withoutTrailing, List.getLast?_reverse]
  exact head?_withoutLeading_ne _

theorem exists_trailing (t : List Char) : ∃ n, t = withoutTrailing t ++ List.replicate n '/' := by
  obtain ⟨n, hn⟩ := exists_leading t.reverse
  refine ⟨n, ?_⟩
  rw [withoutTrailing, ← List.reverse_replicate, ← List.reverse_append, ← hn, List.reverse_reverse]

/-- The same at the end. -/
theorem withoutTrailing_eq_iff :
    withoutTrailing t = withoutTrailing u ↔
      ∃ rest m n, t = rest ++ List.replicate m '/' ∧ u = rest ++ List.replicate n '/' := by
  constructor
  · intro h
    obtain ⟨m, hm⟩ := exists_trailing t
    obtain ⟨n, hn⟩ := exists_trailing u
    rw [← h] at hn
    exact ⟨withoutTrailing t, m, n, hm, hn⟩
  · intro h
    obtain ⟨rest, m, n, rfl, rfl⟩ := h
    rw [withoutTrailing_slashes, withoutTrailing_slashes]

/-! ### Roots and addresses -/

/-- A text of slashes alone. -/
def slashes (n : Nat) : String := String.ofList (List.replicate n '/')

/-- Two texts differ in nothing but the slashes in front. -/
def EqualButInFront (s s' : String) : Prop :=
  ∃ rest m n, s = slashes m ++ rest ∧ s' = slashes n ++ rest

/-- Two texts differ in nothing but the slashes at the end. -/
def EqualButAtEnd (s s' : String) : Prop :=
  ∃ rest m n, s = rest ++ slashes m ∧ s' = rest ++ slashes n

theorem toList_slashes_append (n : Nat) (s : String) :
    (slashes n ++ s).toList = List.replicate n '/' ++ s.toList := by
  rw [String.toList_append, slashes, String.toList_ofList]

theorem toList_append_slashes (s : String) (n : Nat) :
    (s ++ slashes n).toList = s.toList ++ List.replicate n '/' := by
  rw [String.toList_append, slashes, String.toList_ofList]

theorem equalButInFront_iff {s s' : String} :
    EqualButInFront s s' ↔ withoutLeading s.toList = withoutLeading s'.toList := by
  rw [withoutLeading_eq_iff]
  constructor
  · intro h
    obtain ⟨rest, m, n, rfl, rfl⟩ := h
    exact ⟨rest.toList, m, n, toList_slashes_append m rest, toList_slashes_append n rest⟩
  · intro h
    obtain ⟨rest, m, n, hm, hn⟩ := h
    refine ⟨String.ofList rest, m, n, ?_, ?_⟩
    · rw [← String.toList_inj, toList_slashes_append, String.toList_ofList, hm]
    · rw [← String.toList_inj, toList_slashes_append, String.toList_ofList, hn]

theorem equalButAtEnd_iff {s s' : String} :
    EqualButAtEnd s s' ↔ withoutTrailing s.toList = withoutTrailing s'.toList := by
  rw [withoutTrailing_eq_iff]
  constructor
  · intro h
    obtain ⟨rest, m, n, rfl, rfl⟩ := h
    exact ⟨rest.toList, m, n, toList_append_slashes rest m, toList_append_slashes rest n⟩
  · intro h
    obtain ⟨rest, m, n, hm, hn⟩ := h
    refine ⟨String.ofList rest, m, n, ?_, ?_⟩
    · rw [← String.toList_inj, toList_append_slashes, String.toList_ofList, hm]
    · rw [← String.toList_inj, toList_append_slashes, String.toList_ofList, hn]

theorem ofUrl_eq_iff :
    ofUrl base = ofUrl base' ↔ withoutTrailing base.toList = withoutTrailing base'.toList := by
  rw [ofUrl, ofUrl, ApiRoot.mk.injEq, String.ofList_inj]
  exact List.append_left_inj _

theorem url_eq_iff :
    root.url endpoint = root.url endpoint' ↔
      withoutLeading endpoint.toList = withoutLeading endpoint'.toList := by
  rw [url, url, String.append_right_inj, String.ofList_inj]

/-- Two roots that give an endpoint the same address are the same. -/
theorem root_eq_of_url_eq {root' : ApiRoot} (h : root.url endpoint = root'.url endpoint) :
    root = root' := by
  have hbase : root.base = root'.base := (String.append_left_inj _).1 h
  exact congrArg ApiRoot.mk hbase

theorem ofUrl_append_slashes (base : String) (n : Nat) :
    ofUrl (base ++ slashes n) = ofUrl base := by
  rw [ofUrl_eq_iff, toList_append_slashes, withoutTrailing_slashes]

theorem url_slashes_append (root : ApiRoot) (n : Nat) (endpoint : String) :
    root.url (slashes n ++ endpoint) = root.url endpoint := by
  rw [url_eq_iff, toList_slashes_append, withoutLeading_slashes]

theorem base_of_rest {rest : String} (h : rest.toList.getLast? ≠ some '/') :
    (ofUrl rest).base = rest ++ "/" := by
  rw [ofUrl, withoutTrailing_of_getLast?_ne h, String.ofList_append, String.ofList_toList]

theorem url_of_rest {rest : String} (h : rest.toList.head? ≠ some '/') :
    root.url rest = root.base ++ rest := by
  rw [url, withoutLeading_of_head?_ne h, String.ofList_toList]

theorem exists_append_slashes (s : String) :
    ∃ rest n, s = rest ++ slashes n ∧ rest.toList.getLast? ≠ some '/' := by
  obtain ⟨n, hn⟩ := exists_trailing s.toList
  refine ⟨String.ofList (withoutTrailing s.toList), n, ?_, ?_⟩
  · rw [← String.toList_inj, toList_append_slashes, String.toList_ofList]
    exact hn
  · rw [String.toList_ofList]
    exact getLast?_withoutTrailing_ne _

theorem exists_slashes_append (s : String) :
    ∃ n rest, s = slashes n ++ rest ∧ rest.toList.head? ≠ some '/' := by
  obtain ⟨n, hn⟩ := exists_leading s.toList
  refine ⟨n, String.ofList (withoutLeading s.toList), ?_, ?_⟩
  · rw [← String.toList_inj, toList_slashes_append, String.toList_ofList]
    exact hn
  · rw [String.toList_ofList]
    exact head?_withoutLeading_ne _

/-- The address of a root is its own normal form. -/
theorem ofUrl_base (base : String) : ofUrl (ofUrl base).base = ofUrl base := by
  obtain ⟨rest, n, rfl, hrest⟩ := exists_append_slashes base
  rw [ofUrl_append_slashes, base_of_rest hrest]
  exact ofUrl_append_slashes rest 1

/-- Let the root be made from the text `base`. Then its address is that text without the slashes at
    its end and one slash, and making a root from the address gives this root again. The address of
    an endpoint is the text, one slash and the endpoint, with nothing changed in either but the
    slashes where they meet, of which neither brings any. More slashes there make no difference.
    Below one root two endpoints have one address exactly if they differ only in the slashes in
    front, and two texts make roots with the same addresses exactly if they differ only in the
    slashes at the end. -/
theorem addresses_join_at_one_slash (base endpoint : String) :
    (∃ front m n behind,
      base = front ++ slashes m ∧ front.toList.getLast? ≠ some '/' ∧
      endpoint = slashes n ++ behind ∧ behind.toList.head? ≠ some '/' ∧
      (ofUrl base).base = front ++ "/" ∧
      (ofUrl base).url endpoint = front ++ "/" ++ behind) ∧
    ofUrl (ofUrl base).base = ofUrl base ∧
    (∀ m n, (ofUrl (base ++ slashes m)).url (slashes n ++ endpoint) =
      (ofUrl base).url endpoint) ∧
    (∀ endpoint', (ofUrl base).url endpoint = (ofUrl base).url endpoint' ↔
      EqualButInFront endpoint endpoint') ∧
    ∀ base', (∀ e, (ofUrl base).url e = (ofUrl base').url e) ↔ EqualButAtEnd base base' := by
  refine ⟨?_, ofUrl_base base, ?_, ?_, ?_⟩
  · obtain ⟨front, m, rfl, hfront⟩ := exists_append_slashes base
    obtain ⟨n, behind, rfl, hbehind⟩ := exists_slashes_append endpoint
    have hbase : (ofUrl (front ++ slashes m)).base = front ++ "/" := by
      rw [ofUrl_append_slashes, base_of_rest hfront]
    refine ⟨front, m, n, behind, rfl, hfront, rfl, hbehind, hbase, ?_⟩
    rw [url_slashes_append, url_of_rest hbehind, hbase]
  · intro m n
    rw [ofUrl_append_slashes, url_slashes_append]
  · intro endpoint'
    rw [url_eq_iff, equalButInFront_iff]
  · intro base'
    rw [equalButAtEnd_iff, ← ofUrl_eq_iff]
    constructor
    · intro h
      exact root_eq_of_url_eq (h "")
    · intro h e
      rw [h]

/-- Slashes alone are a root and an endpoint as well: they meet in one slash. -/
example : (ofUrl "///").base = "/" ∧ (ofUrl "//").url "//" = "/" ∧
    (ofUrl "http://h//").url "//a//b/" = "http://h/a//b/" := by decide

end RegistryProbe.ApiRoot
