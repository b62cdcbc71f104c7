/-! # Pieces of a text

  A mark divides a text into pieces: those between its occurrences, in front of the first and after
  the last. Two marks in a row have an empty piece between them; `parts` leaves those out.

  - Put together again with the mark between them, the pieces are the text:
    `intercalate_pieces`.
-/

namespace RegistryProbe.Text

/-- The pieces of a text between marks, empty ones included. -/
def pieces (mark : Char) : List Char → List (List Char)
  | [] => [[]]
  | c :: rest =>
    if c = mark then [] :: pieces mark rest
    else
      match pieces mark rest with
      | [] => [[c]]
      | p :: ps => (c :: p) :: ps

/-- The pieces of a text that are not empty. -/
def parts (mark : Char) (t : List Char) : List (List Char) := (pieces mark t).filter (· ≠ [])

theorem pieces_ne_nil (mark : Char) (t : List Char) : pieces mark t ≠ [] := by
  cases t with
  | nil => simp [pieces]
  | cons c rest =>
    unfold pieces
    split
    · simp
    · split <;> simp

theorem intercalate_pieces (mark : Char) (t : List Char) :
    [mark].intercalate (pieces mark t) = t := by
  induction t with
  | nil => simp [pieces]
  | cons c rest ih =>
    unfold pieces
    cases h : pieces mark rest with
    | nil => exact absurd h (pieces_ne_nil mark rest)
    | cons p ps =>
      rw [h] at ih
      by_cases hc : c = mark
      · simp [hc, ← ih, List.intercalate]
      · cases ps <;> simp_all [List.intercalate]

end RegistryProbe.Text
