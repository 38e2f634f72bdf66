/-!
# Pieces of text

* `Text.pieces` splits a list of characters at every occurrence of a mark; `pieces_append` says how it meets a joint, and
  `pieces_ne_nil` that there is always a piece.
* `Text.cut` splits at the first occurrence of a mark of several characters.
-/

namespace Converge.Text

set_option autoImplicit false

/-- The parts of a text between the marks. -/
def pieces (mark : Char) : List Char → List (List Char)
  | [] => [[]]
  | c :: rest =>
    if c = mark then [] :: pieces mark rest
    else
      match pieces mark rest with
      | [] => [[c]]
      | p :: ps => (c :: p) :: ps

/-- What stands before and behind the first occurrence of the mark. -/
def cut (mark : List Char) : List Char → Option (List Char × List Char)
  | [] => none
  | c :: rest =>
    if mark.isPrefixOf (c :: rest) then some ([], (c :: rest).drop mark.length)
    else (cut mark rest).map fun (before, behind) => (c :: before, behind)

theorem pieces_ne_nil (mark : Char) (cs : List Char) : pieces mark cs ≠ [] := by
  cases cs with
  | nil => simp [pieces]
  | cons c rest =>
    unfold pieces
    split
    · simp
    · split <;> simp

theorem pieces_append (mark : Char) (s t : List Char) : pieces mark (s ++ mark :: t) = pieces mark s ++ pieces mark t := by
  induction s with
  | nil => simp [pieces]
  | cons c rest ih =>
    simp only [List.cons_append, pieces]
    split
    · simp [ih]
    · rw [ih]
      cases h : pieces mark rest with
      | nil => exact absurd h (pieces_ne_nil mark rest)
      | cons p ps => rfl

end Converge.Text
