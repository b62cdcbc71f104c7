import Mathlib.Data.List.Induction
import RegistryProbe.Proofs.Files.Holding
import RegistryProbe.Proofs.Probe.Answer
import RegistryProbe.Scan

/-! # The files of a scan

  A scan numbers its calls, and each call has two files in the workspace: one for the body and one
  for the status, both named after the number.

  - No two of these names are the same: `nodup_names_filed`.
  - `filed` lists the files of calls that have written their responses. One more response adds two
    files at the end: `filed_concat`.
  - Keeping a response adds its files to those that the workspace holds, and fewer only if one
    cannot be written: `holds_keep`.
-/

namespace RegistryProbe

open Files

/-! ### Names -/

/-- The name of the file for the body of the call with a number. -/
def bodyName (index : Nat) : String := Text.Decimal.text index ++ ".json"

/-- The name of the file for the status of the call with a number. -/
def statusName (index : Nat) : String := bodyName index ++ ".http"

theorem toList_bodyName (index : Nat) :
    (bodyName index).toList = Text.Decimal.digits index ++ ['.', 'j', 's', 'o', 'n'] := by
  simp [bodyName, Text.Decimal.text]

theorem toList_statusName (index : Nat) :
    (statusName index).toList = (bodyName index).toList ++ ['.', 'h', 't', 't', 'p'] := by
  simp [statusName]

theorem bodyName_injective : Function.Injective bodyName := by
  intro i j h
  have h := congrArg String.toList h
  rw [toList_bodyName, toList_bodyName] at h
  exact Text.Decimal.digits_injective (List.append_cancel_right h)

theorem statusName_injective : Function.Injective statusName := by
  intro i j h
  have h := congrArg String.toList h
  rw [toList_statusName, toList_statusName] at h
  exact bodyName_injective (String.toList_injective (List.append_cancel_right h))

/-- A body and a status never share a name, for the names end in different letters. -/
theorem bodyName_ne_statusName (i j : Nat) : bodyName i ≠ statusName j := by
  intro h
  have h := congrArg (fun name => name.toList.getLast?) h
  simp [toList_statusName, toList_bodyName] at h

/-- Digits with something behind them are a name. -/
theorem isName_of_digits {name : String} {index : Nat} {suffix : List Char}
    (h : name.toList = Text.Decimal.digits index ++ suffix) (hslash : '/' ∉ suffix)
    (hlong : 2 ≤ suffix.length) : Disk.IsName name := by
  have hdigits := Text.Decimal.digits_ne_nil index
  have hnoslash : '/' ∉ Text.Decimal.digits index := fun hmem => by
    have := List.all_eq_true.1 (Text.Decimal.all_isDigit_digits index) _ hmem
    simp [Text.Decimal.isDigit] at this
  refine Disk.isName_of_not_mem (by simp [h, hslash, hnoslash]) (by simp [h, hdigits]) ?_
  -- the special names are shorter
  have hlength : 3 ≤ name.toList.length := by
    have := List.length_pos_iff.2 hdigits
    rw [h, List.length_append]
    omega
  have hother {special : String} (hshort : special.toList.length < 3) : name ≠ special := by
    rintro rfl
    omega
  have hdot : name ≠ "." := hother (by decide)
  have hdots : name ≠ ".." := hother (by decide)
  simp [Disk.isProper, hdot, hdots]

theorem isName_bodyName (index : Nat) : Disk.IsName (bodyName index) :=
  isName_of_digits (toList_bodyName index) (by decide) (by decide)

theorem isName_statusName (index : Nat) : Disk.IsName (statusName index) := by
  have h := toList_statusName index
  rw [toList_bodyName, List.append_assoc] at h
  exact isName_of_digits h (by decide) (by decide)

/-! ### The files of calls -/

/-- The files of the call with a number: the body as it came, and the status in decimal. -/
def filesOf (index : Nat) (response : Response) : List (String × Bytes) :=
  [(bodyName index, response.body),
    (statusName index, Bytes.ofText (Text.Decimal.text response.status.toNat))]

/-- The files of calls that have written their responses, the calls being numbered from zero. -/
def filed (responses : List Response) : List (String × Bytes) :=
  responses.zipIdx.flatMap fun r => filesOf r.2 r.1

theorem filed_concat (responses : List Response) (response : Response) :
    filed (responses ++ [response]) = filed responses ++ filesOf responses.length response := by
  simp [filed, List.zipIdx_append]

theorem length_filed (responses : List Response) :
    (filed responses).length = 2 * responses.length := by
  induction responses using List.reverseRecOn with
  | nil => rfl
  | append_singleton responses response ih =>
    rw [filed_concat, List.length_append, ih, List.length_append, filesOf]
    simp only [List.length_cons, List.length_nil]
    omega

/-- Every name comes from the number of a call. -/
theorem mem_names_filed {responses : List Response} {name : String}
    (h : name ∈ (filed responses).map Prod.fst) :
    ∃ index < responses.length, name = bodyName index ∨ name = statusName index := by
  induction responses using List.reverseRecOn with
  | nil => simp [filed] at h
  | append_singleton responses response ih =>
    rw [filed_concat, List.map_append, List.mem_append] at h
    rw [List.length_append, List.length_singleton]
    rcases h with h | h
    · obtain ⟨index, hlt, hname⟩ := ih h
      exact ⟨index, by omega, hname⟩
    · exact ⟨responses.length, by omega, by simpa [filesOf] using h⟩

theorem bodyName_not_mem_filed (responses : List Response) :
    bodyName responses.length ∉ (filed responses).map Prod.fst := by
  intro h
  obtain ⟨index, hlt, hname | hname⟩ := mem_names_filed h
  · have := bodyName_injective hname
    omega
  · exact bodyName_ne_statusName _ _ hname

theorem statusName_not_mem_filed (responses : List Response) :
    statusName responses.length ∉ (filed responses).map Prod.fst := by
  intro h
  obtain ⟨index, hlt, hname | hname⟩ := mem_names_filed h
  · exact bodyName_ne_statusName _ _ hname.symm
  · have := statusName_injective hname
    omega

/-- All files of all calls have different names. -/
theorem nodup_names_filed (responses : List Response) :
    ((filed responses).map Prod.fst).Nodup := by
  induction responses using List.reverseRecOn with
  | nil => exact List.nodup_nil
  | append_singleton responses response ih =>
    have hbody := bodyName_not_mem_filed responses
    have hstatus := statusName_not_mem_filed responses
    have hne := bodyName_ne_statusName responses.length responses.length
    rw [filed_concat, List.map_append]
    refine List.nodup_append.2 ⟨ih, by simp [filesOf, hne], ?_⟩
    intro name hname other hother
    have hother : other = bodyName responses.length ∨ other = statusName responses.length := by
      simpa [filesOf] using hother
    rcases hother with rfl | rfl
    · rintro rfl
      exact hbody hname
    · rintro rfl
      exact hstatus hname

/-! ### Keeping a response -/

theorem statusPath_join {base tail : String} (h : tail ≠ "") :
    statusPath (PathText.join base tail) = PathText.join base (statusPath tail) := by
  unfold statusPath PathText.join
  rw [PathText.isAbsolute_append h]
  split
  · rfl
  · split <;> simp [String.append_assoc]

/-- In a workspace that holds the files of earlier calls, keeping the next response adds its two
    files. If one of them cannot be written, it and what would follow are all that is missing. -/
theorem holds_keep {path : String} {before d : Disk} {responses : List Response}
    (hsite : Disk.IsSite path) (h : Disk.Holds path before (filed responses) d)
    (response : Response) :
    ∃ more, more <+: filesOf responses.length response ∧
      Disk.Holds path before (filed responses ++ more)
        (keep (PathText.join path (bodyName responses.length)) response d).2 ∧
      ((keep (PathText.join path (bodyName responses.length)) response d).1 = .ok () →
        more = filesOf responses.length response) := by
  have hne : bodyName responses.length ≠ "" := by
    intro hempty
    have := congrArg String.toList hempty
    simp [toList_bodyName] at this
  have hstatus : statusPath (PathText.join path (bodyName responses.length)) =
      PathText.join path (statusName responses.length) := statusPath_join hne
  unfold keep
  rw [hstatus]
  cases hbody : d.write (PathText.join path (bodyName responses.length)) response.body with
  | error f => exact ⟨[], List.nil_prefix, by simpa using h, by simp⟩
  | ok d' =>
    have hfirst := h.write hsite (isName_bodyName _) (bodyName_not_mem_filed responses) hbody
    dsimp only
    cases hwrite : d'.write (PathText.join path (statusName responses.length))
        (statusBytes response.status) with
    | error f => exact ⟨_, by simp [filesOf], hfirst, by simp⟩
    | ok d'' =>
      have hnew : statusName responses.length ∉
          (filed responses ++ [(bodyName responses.length, response.body)]).map Prod.fst := by
        have hearlier := statusName_not_mem_filed responses
        have hown := bodyName_ne_statusName responses.length responses.length
        rw [List.map_append, List.mem_append]
        rintro (hmem | hmem)
        · exact hearlier hmem
        · exact hown.symm (by simpa using hmem)
      have hboth := hfirst.write hsite (isName_statusName _) hnew hwrite
      rw [List.append_assoc] at hboth
      exact ⟨_, List.prefix_refl _, hboth, fun _ => rfl⟩

end RegistryProbe
