import Commentary.Text.Pieces

/-! Lines of a text. A line ends at a line feed, and one carriage return right before the
line feed belongs to the line end. A line end at the very end opens no further line. -/
namespace Commentary.Text

def lines : List Char → List (List Char)
  | [] => []
  | '\n' :: rest => [] :: lines rest
  | '\r' :: '\n' :: rest => [] :: lines rest
  | c :: rest => pushFirst c (lines rest)

/-- The lines with a line feed between each two of them. -/
def unlines (list : List (List Char)) : List Char :=
  joined '\n' list

end Commentary.Text
