import Commentary.Text.Trim
import Commentary.Text.Lines

/-! The logical lines of a comment: its lines without the stars that decorate them. -/
namespace Commentary.Comment

/-- A line without its decoration, which is a star with one space behind it. On a line
without a star one leading blank is left out. -/
def undecorate (line : List Char) : List Char :=
  match Text.trimStart line with
  | '*' :: ' ' :: rest => rest
  | '*' :: rest => rest
  | _ =>
    match line with
    | c :: rest => if Text.isBlank c then rest else line
    | [] => []

def logicalLines (body : List Char) : List (List Char) :=
  (Text.lines (Text.trimEnd body)).map fun line => Text.trimEnd (undecorate line)

/-- The lines from the first to the last one that is not blank. -/
def trimLines (list : List (List Char)) : List (List Char) :=
  ((list.dropWhile Text.isBlankLine).reverse.dropWhile Text.isBlankLine).reverse

/-- The text of a block, if it has any. -/
def content (list : List (List Char)) : Option String :=
  if (trimLines list).isEmpty then none else some (String.ofList (Text.unlines (trimLines list)))

end Commentary.Comment
