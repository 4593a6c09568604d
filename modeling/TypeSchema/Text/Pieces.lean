/-!
# Pieces of a text

The stretches of a text between the marks that part them; there is one more of them than of marks.
-/

namespace TypeSchema.Text

/-- The stretches of a text between marks. -/
def pieces (mark : Char) : List Char → List (List Char)
  | [] => [[]]
  | c :: cs =>
    if c = mark then [] :: pieces mark cs
    else
      match pieces mark cs with
      | [] => [[c]]
      | p :: ps => (c :: p) :: ps

end TypeSchema.Text
