/-! Cutting text at a separator.

`splitOn sep cs` has one piece more than `cs` has separators, so that neighbouring separators leave
an empty piece between them and joining the pieces with the separator gives `cs` back.
-/

set_option autoImplicit false

namespace ShapeInference.Text

def splitOn (sep : Char) : List Char → List (List Char)
  | [] => [[]]
  | c :: rest =>
    if c = sep then [] :: splitOn sep rest
    else (splitOn sep rest).modifyHead (c :: ·)

theorem splitOn_ne_nil (sep : Char) (cs : List Char) : splitOn sep cs ≠ [] := by
  induction cs with
  | nil => simp [splitOn]
  | cons c rest ih =>
    simp only [splitOn]
    split
    · simp
    · simpa using ih

theorem intercalate_splitOn (sep : Char) (cs : List Char) :
    [sep].intercalate (splitOn sep cs) = cs := by
  induction cs with
  | nil => rfl
  | cons c rest ih =>
    simp only [splitOn]
    cases pieces : splitOn sep rest with
    | nil => exact absurd pieces (splitOn_ne_nil sep rest)
    | cons first more =>
      rw [pieces] at ih
      split
      · next h => simp [h, List.intercalate_cons_cons, ih]
      · cases more with
        | nil => simpa [List.intercalate] using ih
        | cons second more =>
          simp only [List.modifyHead_cons, List.intercalate_cons_cons] at ih ⊢
          simp [← ih]

/-- The nonempty pieces. -/
def words (sep : Char) (cs : List Char) : List (List Char) :=
  (splitOn sep cs).filter fun piece => !piece.isEmpty

/-- The pieces between blanks and line ends. -/
def tokens (cs : List Char) : List (List Char) :=
  words ' ' (cs.map fun c => if c = '\n' then ' ' else c)

end ShapeInference.Text
