import Commentary.Text.Trim
import Commentary.Text.Pieces

/-! Alternatives of a type, with bars between them. A bar inside brackets divides nothing. -/
namespace Commentary.Comment

/-- How a character changes the depth of brackets. The angle of an arrow closes nothing. -/
def depthChange (previous c : Char) : Int :=
  if c = '(' || c = '[' || c = '{' || c = '<' then 1
  else if c = '>' && previous = '=' then 0
  else if c = ')' || c = ']' || c = '}' || c = '>' then -1
  else 0

/-- The pieces between the bars at depth zero. -/
def cutUnion (depth : Int) (previous : Char) : List Char → List (List Char)
  | [] => [[]]
  | c :: rest =>
    if c = '|' ∧ depth = 0 then [] :: cutUnion depth c rest
    else Text.pushFirst c (cutUnion (depth + depthChange previous c) c rest)

def splitUnion (type : List Char) : List String :=
  (cutUnion 0 ' ' type).filterMap Text.nonBlank

end Commentary.Comment
