import RegistryProbe.Proofs.Results
import RegistryProbe.Uri.Reader

/-! # Addresses and their printed form

  A URI that was read from an address with a scheme is printed in a form of its own, which may
  differ from the address.

  - `Address` is an address in the parts that its marks delimit. Every address that is read is of
    this kind, and what is printed follows from the parts: `exists_address_of_read`.
  - `IsPrinted` says which addresses are in the printed form: `http` and `https` stand in lower
    case, a path follows the authority, and there is no fragment.
  - An address is printed as it was given if it is in this form, and only then: `text_eq_iff`.
-/

namespace RegistryProbe.Uri

/-! ### The parts of an address -/

/-- How the scheme of an address is printed. -/
def printedScheme (scheme : List Char) : List Char :=
  if lower scheme = "http".toList ∨ lower scheme = "https".toList then lower scheme else scheme

/-- An address with a scheme, in its parts. Path, query and fragment have their first marks with
    them, and each of them may be empty. -/
structure Address where
  /-- What stands before `://`. -/
  scheme : List Char
  /-- What stands behind it up to the first slash, question mark or hash. -/
  authority : List Char
  /-- What follows up to a question mark or a hash. -/
  path : List Char
  /-- What follows up to a hash. -/
  query : List Char
  /-- The rest. -/
  fragment : List Char
  scheme_clear : ∀ c ∈ scheme, c ≠ ':' ∧ c ≠ '#'
  authority_clear : ∀ c ∈ authority, endsAuthority c = false
  path_clear : ∀ c ∈ path, c ≠ '#'
  query_clear : ∀ c ∈ query, c ≠ '#'
  path_head : path = [] ∨ ∃ rest, path = '/' :: rest
  query_head : query = [] ∨ ∃ rest, query = '?' :: rest
  fragment_head : fragment = [] ∨ ∃ rest, fragment = '#' :: rest

namespace Address

/-- The address as it is given. -/
def text (a : Address) : List Char :=
  a.scheme ++ "://".toList ++ (a.authority ++ (a.path ++ (a.query ++ a.fragment)))

/-- The address as it is printed. -/
def printed (a : Address) : List Char :=
  printedScheme a.scheme ++ "://".toList ++
    (a.authority ++ ((if a.path = [] then ['/'] else a.path) ++ a.query))

theorem length_printedScheme (scheme : List Char) :
    (printedScheme scheme).length = scheme.length := by
  unfold printedScheme lower
  split <;> simp

/-- An address is printed as it is given if the scheme is and neither a path is added nor a fragment
    dropped. -/
theorem printed_eq_text_iff (a : Address) :
    a.printed = a.text ↔
      printedScheme a.scheme = a.scheme ∧ a.path ≠ [] ∧ a.fragment = [] := by
  unfold printed text
  constructor
  · intro h
    -- the schemes have one length, so the parts can be compared one by one
    have hlength : (printedScheme a.scheme ++ "://".toList).length =
        (a.scheme ++ "://".toList).length := by
      rw [List.length_append, List.length_append, length_printedScheme]
    obtain ⟨hscheme, hrest⟩ := List.append_inj h hlength
    have hrest := List.append_cancel_left hrest
    by_cases hpath : a.path = []
    · -- a slash that is added differs from the mark that stands in its place
      rw [if_pos hpath, hpath] at hrest
      exfalso
      rcases a.query_head with hq | ⟨q, hq⟩ <;> rcases a.fragment_head with hf | ⟨f, hf⟩ <;>
        simp [hq, hf] at hrest
    · rw [if_neg hpath] at hrest
      have hfragment := List.append_cancel_left hrest
      exact ⟨List.append_cancel_right hscheme, hpath, by simpa using hfragment⟩
  · rintro ⟨hscheme, hpath, hfragment⟩
    rw [hscheme, if_neg hpath, hfragment, List.append_nil]

end Address

/-! ### The printed form -/

/-- An address in the printed form: a scheme `http` or `https` stands in lower case, the first mark
    behind the authority is a slash, and there is no hash. -/
def IsPrinted (url : String) : Prop :=
  printedScheme (url.toList.takeWhile (· ≠ ':')) = url.toList.takeWhile (· ≠ ':') ∧
    ((url.toList.dropWhile (· ≠ ':')).drop 3).find? endsAuthority = some '/' ∧
    '#' ∉ url.toList

instance (url : String) : Decidable (IsPrinted url) := inferInstanceAs (Decidable (_ ∧ _ ∧ _))

theorem isPrinted_iff (a : Address) {url : String} (h : url.toList = a.text) :
    IsPrinted url ↔ printedScheme a.scheme = a.scheme ∧ a.path ≠ [] ∧ a.fragment = [] := by
  have hscheme : ∀ c ∈ a.scheme, (decide (c ≠ ':')) = true := fun c hc => by
    simpa using (a.scheme_clear c hc).1
  have htake : url.toList.takeWhile (· ≠ ':') = a.scheme := by
    rw [h, Address.text, List.append_assoc, List.takeWhile_append_of_pos hscheme]
    simp
  have hdrop : (url.toList.dropWhile (· ≠ ':')).drop 3 =
      a.authority ++ (a.path ++ (a.query ++ a.fragment)) := by
    rw [h, Address.text, List.append_assoc, List.dropWhile_append_of_pos hscheme]
    simp
  have hpath : (a.authority ++ (a.path ++ (a.query ++ a.fragment))).find? endsAuthority = some '/' ↔
      a.path ≠ [] := by
    have hauthority : a.authority.find? endsAuthority = none := by
      rw [List.find?_eq_none]
      intro c hc
      simp [a.authority_clear c hc]
    rw [List.find?_append, hauthority, Option.none_or]
    rcases a.path_head with hp | ⟨p, hp⟩
    · rcases a.query_head with hq | ⟨q, hq⟩ <;> rcases a.fragment_head with hf | ⟨f, hf⟩ <;>
        simp [hp, hq, hf, endsAuthority]
    · simp [hp, endsAuthority]
  have hfragment : '#' ∉ url.toList ↔ a.fragment = [] := by
    have hno : '#' ∉ a.scheme ∧ '#' ∉ a.authority ∧ '#' ∉ a.path ∧ '#' ∉ a.query := by
      refine ⟨fun hc => (a.scheme_clear _ hc).2 rfl, fun hc => ?_, fun hc => a.path_clear _ hc rfl,
        fun hc => a.query_clear _ hc rfl⟩
      have := a.authority_clear _ hc
      simp [endsAuthority] at this
    rw [h, Address.text]
    rcases a.fragment_head with hf | ⟨f, hf⟩ <;> simp [hf, hno]
  rw [IsPrinted, htake, hdrop, hpath, hfragment]

/-! ### Reading an address -/

/-- Only letters have a lower case of their own. -/
theorem eq_of_toLower_eq {c d : Char} (hd : d.isLower = false) (h : c.toLower = d) : c = d := by
  unfold Char.toLower at h
  split at h
  next hupper =>
    have hlow : 65 ≤ c.val.toNat := hupper.1
    have hhigh : c.val.toNat ≤ 90 := hupper.2
    have hval : d.val.toNat = c.val.toNat + 32 := by
      rw [← h]
      show (c.val + 32).toNat = _
      rw [UInt32.toNat_add, show (32 : UInt32).toNat = 32 from rfl]
      omega
    have hlower : d.isLower = true := by
      have hge : 97 ≤ d.val.toNat := by omega
      have hle : d.val.toNat ≤ 122 := by omega
      unfold Char.isLower
      rw [Bool.and_eq_true, decide_eq_true_eq, decide_eq_true_eq]
      exact ⟨hge, hle⟩
    rw [hlower] at hd
    cases hd
  next => exact h

/-- A text that is without letters in lower case was so before. -/
theorem eq_of_lower_eq {t marks : List Char} (hmarks : marks.any Char.isLower = false)
    (h : lower t = marks) : t = marks := by
  subst h
  have hsame : t.map id = lower t := List.map_congr_left fun c hc =>
    eq_of_toLower_eq (eq_false_of_ne_true (List.any_eq_false.1 hmarks _ (List.mem_map_of_mem hc)))
      rfl
  rwa [List.map_id] at hsame

/-- A text that begins with a name and the marks of a scheme, whatever the case of its letters,
    begins with these marks behind the name. -/
theorem exists_of_lower_take (name : String) {t : List Char}
    (h : lower (t.take (name.toList.length + 3)) = name.toList ++ "://".toList) :
    t = t.take name.toList.length ++ "://".toList ++ t.drop (name.toList.length + 3) ∧
      lower (t.take name.toList.length) = name.toList := by
  have hsplit : t.take (name.toList.length + 3) =
      t.take name.toList.length ++ (t.drop name.toList.length).take 3 := List.take_add
  rw [hsplit, lower, List.map_append] at h
  have hlen : ((t.take name.toList.length).map Char.toLower).length = name.toList.length := by
    have := congrArg List.length h
    simp at this
    simp
    omega
  obtain ⟨hname, hmarks⟩ := List.append_inj h hlen
  refine ⟨?_, hname⟩
  have hmarks := eq_of_lower_eq rfl hmarks
  rw [← hmarks, ← hsplit, List.take_append_drop]

/-- Conversely, a text that does not begin with a name and the marks of a scheme has another name in
    front of these marks. -/
theorem lower_ne_of_take (name : String) {given t : List Char}
    (hmarks : t.take 3 = "://".toList)
    (h : ¬ lower ((given ++ t).take (name.toList.length + 3)) = name.toList ++ "://".toList) :
    ¬ lower given = name.toList := by
  intro hlower
  have hlength : name.toList.length = given.length := by
    rw [← hlower, lower, List.length_map]
  apply h
  rw [hlength, List.take_length_add_append, hmarks, lower, List.map_append]
  exact congrArg (· ++ _) hlower

/-- A name that is all letters in lower case but for the case of its letters holds no mark. -/
theorem clear_of_lower_eq {given name : List Char} (hname : name.all Char.isLower = true)
    (h : lower given = name) : ∀ c ∈ given, c ≠ ':' ∧ c ≠ '#' := by
  intro c hc
  have hlower := List.all_eq_true.1 hname c.toLower (h ▸ List.mem_map_of_mem hc)
  constructor
  · rintro rfl
    simp at hlower
  · rintro rfl
    simp at hlower

/-- The characters of a scheme are no marks. -/
theorem clear_of_isSchemeChar {t : List Char} :
    ∀ c ∈ t.takeWhile isSchemeChar, c ≠ ':' ∧ c ≠ '#' := by
  intro c hc
  have hscheme := List.all_eq_true.1 List.all_takeWhile c hc
  constructor
  · rintro rfl
    simp [isSchemeChar, isAlphanum] at hscheme
  · rintro rfl
    simp [isSchemeChar, isAlphanum] at hscheme

/-- How a scheme is taken off an address. -/
theorem scheme?_spec {t rest : List Char} {scheme : String}
    (h : scheme? t = .ok (some scheme, rest)) :
    ∃ given, t = given ++ "://".toList ++ rest ∧ scheme.toList = printedScheme given ∧
      ∀ c ∈ given, c ≠ ':' ∧ c ≠ '#' := by
  unfold scheme? at h
  split at h
  next hhttp =>
    obtain ⟨hsplit, hlower⟩ := exists_of_lower_take "http" hhttp
    cases h
    refine ⟨t.take 4, hsplit, ?_, clear_of_lower_eq rfl hlower⟩
    rw [printedScheme, if_pos (.inl hlower)]
    exact hlower.symm
  next hhttp =>
    split at h
    next hhttps =>
      obtain ⟨hsplit, hlower⟩ := exists_of_lower_take "https" hhttps
      cases h
      refine ⟨t.take 5, hsplit, ?_, clear_of_lower_eq rfl hlower⟩
      rw [printedScheme, if_pos (.inr hlower)]
      exact hlower.symm
    next hhttps =>
      dsimp only at h
      have hchars := clear_of_isSchemeChar (t := t)
      have hstart : t.takeWhile isSchemeChar <+: t := List.takeWhile_prefix isSchemeChar
      generalize t.takeWhile isSchemeChar = name at h hchars hstart
      obtain ⟨more, rfl⟩ := hstart
      rw [List.drop_left] at h
      split at h
      next hmarks =>
        split at h
        next => cases h
        next =>
          obtain ⟨-, hmarks⟩ := hmarks
          rw [← List.drop_drop, List.drop_left] at h
          cases h
          have hmore : more = "://".toList ++ more.drop 3 := by
            rw [← hmarks, List.take_append_drop]
          refine ⟨name, by rw [List.append_assoc, ← hmore], ?_, hchars⟩
          rw [printedScheme, if_neg (not_or.2 ⟨?_, ?_⟩), String.toList_ofList]
          · exact lower_ne_of_take "http" hmarks hhttp
          · exact lower_ne_of_take "https" hmarks hhttps
      next => cases h

/-- A text is what stands up to the first character of some kind, and the rest. -/
theorem exists_span (p : Char → Bool) (t : List Char) :
    ∃ front rest, t = front ++ rest ∧ t.takeWhile p = front ∧ (∀ c ∈ front, p c = true) ∧
      (rest = [] ∨ ∃ c more, rest = c :: more ∧ p c = false) := by
  refine ⟨t.takeWhile p, t.dropWhile p, List.takeWhile_append_dropWhile.symm, rfl,
    List.all_eq_true.1 List.all_takeWhile, ?_⟩
  cases h : t.dropWhile p with
  | nil => exact .inl rfl
  | cons c more =>
    have := List.head?_dropWhile_not p t
    rw [h] at this
    exact .inr ⟨c, more, rfl, by simpa using this⟩

/-- How an authority is taken off an address. -/
theorem authority?_spec {t rest : List Char} {authority : String}
    (h : authority? t = .ok (authority, rest)) :
    t = authority.toList ++ rest ∧ (∀ c ∈ authority.toList, endsAuthority c = false) ∧
      (rest = [] ∨ ∃ c more, rest = c :: more ∧ endsAuthority c = true) := by
  obtain ⟨front, more, rfl, htake, hfront, hmore⟩ := exists_span (!endsAuthority ·) t
  unfold authority? at h
  dsimp only at h
  rw [htake, List.drop_left] at h
  split at h
  next => cases h
  next =>
    split at h
    next =>
      cases h
      rw [String.toList_ofList]
      exact ⟨rfl, by simpa using hfront, by simpa using hmore⟩
    next => cases h

/-- What a query adds to the text of a URI. -/
def queryText (query : Option String) : String := (query.map ("?" ++ ·)).getD ""

/-- How a path and a query are read, and what is dropped. -/
theorem pathAndQuery?_spec {t : List Char} {path : String} {query : Option String}
    (h : pathAndQuery? t = .ok (path, query)) :
    ∃ fragment, t = path.toList ++ ((queryText query).toList ++ fragment) ∧
      (∀ c ∈ path.toList, c ≠ '?' ∧ c ≠ '#') ∧ (∀ c ∈ (queryText query).toList, c ≠ '#') ∧
      ((queryText query).toList = [] ∨ ∃ rest, (queryText query).toList = '?' :: rest) ∧
      (fragment = [] ∨ ∃ rest, fragment = '#' :: rest) := by
  obtain ⟨front, more, rfl, htake, hfront, hmore⟩ :=
    exists_span (fun c => c ≠ '?' && c ≠ '#') t
  have hpath : ∀ c ∈ front, c ≠ '?' ∧ c ≠ '#' := by simpa using hfront
  unfold pathAndQuery? at h
  dsimp only at h
  rw [htake, List.drop_left] at h
  split at h
  next => cases h
  next =>
    split at h
    next rest =>
      -- a question mark ends the path: the query goes on to the first hash
      obtain ⟨asked, fragment, rfl, htake', hasked, hfragment⟩ := exists_span (· ≠ '#') rest
      rw [htake'] at h
      split at h
      next => cases h
      next =>
        cases h
        have hquery : (queryText (some (String.ofList asked))).toList = '?' :: asked := by
          simp [queryText]
        rw [hquery, String.toList_ofList]
        refine ⟨fragment, rfl, hpath, by simpa using hasked, .inr ⟨asked, rfl⟩, ?_⟩
        simpa using hfragment
    next hno =>
      cases h
      rw [String.toList_ofList]
      refine ⟨more, rfl, hpath, by simp [queryText], .inl rfl, ?_⟩
      rcases hmore with rfl | ⟨c, rest, rfl, hc⟩
      · exact .inl rfl
      · have hc : c = '?' ∨ c = '#' := by simpa [Classical.or_iff_not_imp_left] using hc
        rcases hc with rfl | rfl
        · exact absurd rfl (hno rest)
        · exact .inr ⟨rest, rfl⟩

theorem scheme_of_readPath {t : List Char} {u : Uri} (h : readPath t = .ok u) :
    u.scheme = none := by
  unfold readPath at h
  obtain ⟨_, -, h⟩ := ok_bind_iff.1 h
  cases h
  rfl

theorem scheme_of_readAuthority {t : List Char} {u : Uri} (h : readAuthority t = .ok u) :
    u.scheme = none := by
  unfold readAuthority at h
  obtain ⟨_, -, h⟩ := ok_bind_iff.1 h
  split at h
  split at h
  next =>
    cases h
    rfl
  next => cases h

/-- A URI with a scheme is read from its scheme and from what follows it. -/
theorem absolute_of_read {url : String} {u : Uri} {scheme : String} (h : read url = .ok u)
    (hscheme : u.scheme = some scheme) :
    ∃ scheme t, scheme? url.toList = .ok (some scheme, t) ∧ readAbsolute scheme t = .ok u := by
  have hsome : u.scheme ≠ none := by simp [hscheme]
  unfold read at h
  split at h
  next => cases h
  next =>
    cases h
    exact absurd rfl hsome
  next c rest hne hurl =>
    rw [hurl]
    split at h
    next => cases h
    next =>
      split at h
      next => exact absurd (scheme_of_readPath h) hsome
      next =>
        split at h
        next => exact absurd (scheme_of_readAuthority h) hsome
        next =>
          split at h
          next => cases h
          next => exact absurd (scheme_of_readAuthority h) hsome
          next scheme t ht => exact ⟨scheme, t, ht, h⟩

theorem toList_text {u : Uri} {scheme : String} (h : u.scheme = some scheme) :
    u.text.toList = scheme.toList ++ "://".toList ++ (u.authority.toList ++
      ((if u.path.toList = [] then ['/'] else u.path.toList) ++ (queryText u.query).toList)) := by
  have hpath : u.effectivePath.toList =
      if u.path.toList = [] then ['/'] else u.path.toList := by
    unfold effectivePath
    by_cases hempty : u.path = ""
    · simp [h, hempty]
    · have : u.path.toList ≠ [] := by simpa using hempty
      simp [hempty, this]
  rw [← hpath]
  simp [text, h, queryText]

/-- What follows an authority begins with a mark, and so a path there begins with a slash. -/
theorem path_head_of_endsAuthority {path after : List Char}
    (hclear : ∀ c ∈ path, c ≠ '?' ∧ c ≠ '#')
    (hmark : path ++ after = [] ∨ ∃ c more, path ++ after = c :: more ∧ endsAuthority c = true) :
    path = [] ∨ ∃ rest, path = '/' :: rest := by
  cases path with
  | nil => exact .inl rfl
  | cons c rest =>
    have hc := hclear c (by simp)
    rcases hmark with hnil | ⟨d, more, heq, hd⟩
    · cases hnil
    · obtain ⟨rfl, -⟩ := List.cons.inj heq
      have hslash : c = '/' := by simpa [endsAuthority, hc] using hd
      exact .inr ⟨rest, by rw [hslash]⟩

/-- An address that is read as a URI with a scheme is printed as its parts say. -/
theorem exists_address_of_read {url : String} {u : Uri} {scheme : String} (h : read url = .ok u)
    (hscheme : u.scheme = some scheme) :
    ∃ a : Address, url.toList = a.text ∧ u.text.toList = a.printed := by
  obtain ⟨scheme, t, ht, habsolute⟩ := absolute_of_read h hscheme
  obtain ⟨given, hgiven, hprinted, hclear⟩ := scheme?_spec ht
  unfold readAbsolute at habsolute
  obtain ⟨⟨authority, rest⟩, hauthority, habsolute⟩ := ok_bind_iff.1 habsolute
  obtain ⟨ht, hends, hrest⟩ := authority?_spec hauthority
  dsimp only at habsolute
  split at habsolute
  next => cases habsolute
  next =>
    split at habsolute
    next => cases habsolute
    next =>
      obtain ⟨⟨path, query⟩, hpath, hu⟩ := ok_bind_iff.1 habsolute
      obtain ⟨fragment, hparts, hclearPath, hclearQuery, hquery, hfragment⟩ :=
        pathAndQuery?_spec hpath
      cases hu
      have hhead := path_head_of_endsAuthority hclearPath (hparts ▸ hrest)
      refine ⟨⟨given, authority.toList, path.toList, (queryText query).toList, fragment, hclear,
        hends, fun c hc => (hclearPath c hc).2, hclearQuery, hhead, hquery, hfragment⟩, ?_, ?_⟩
      · rw [hgiven, ht, hparts]
        rfl
      · rw [toList_text rfl, hprinted]
        rfl

/-- An address is printed as it was given if it is in the printed form, and only then. -/
theorem text_eq_iff {url : String} {u : Uri} {scheme : String} (h : read url = .ok u)
    (hscheme : u.scheme = some scheme) : u.text = url ↔ IsPrinted url := by
  obtain ⟨a, htext, hprinted⟩ := exists_address_of_read h hscheme
  rw [isPrinted_iff a htext, ← a.printed_eq_text_iff, ← htext, ← hprinted, String.toList_inj]

example : IsPrinted "http://host/crates?q=serde" := by decide

-- a path is added here
example : ¬ IsPrinted "http://host?q=serde" := by decide

end RegistryProbe.Uri
