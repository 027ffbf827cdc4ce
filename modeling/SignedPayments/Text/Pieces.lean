/-!
# SignedPayments.Text.Pieces

Texts in pieces between separators.
-/

namespace SignedPayments

/-- The pieces of characters between those that satisfy `p`: one more than there are
separators. -/
def piecesBy (p : Char → Bool) : List Char → List (List Char)
  | [] => [[]]
  | c :: rest =>
    if p c then [] :: piecesBy p rest
    else
      match piecesBy p rest with
      | [] => [[c]]
      | piece :: more => (c :: piece) :: more

/-- The pieces between separators of one kind. -/
def pieces (separator : Char) (cs : List Char) : List (List Char) := piecesBy (· = separator) cs

/-- Pieces with a separator between each two. -/
def joined (separator : List Char) (parts : List (List Char)) : List Char :=
  separator.intercalate parts

end SignedPayments
