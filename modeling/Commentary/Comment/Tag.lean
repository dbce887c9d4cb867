import Commentary.Text.Trim
import Commentary.Text.Alphanumeric

/-! Tags: lines that start with an at sign and a word. -/
namespace Commentary.Comment

/-- What a tag is about. -/
inductive Tag where
  | description
  | parameter
  | result
  | sample
  | name
  | label
  | file
  | unknown
deriving Repr, DecidableEq

def Tag.ofWord (word : String) : Tag :=
  if word = "desc" ∨ word = "description" then .description
  else if word = "param" ∨ word = "arg" ∨ word = "argument" then .parameter
  else if word = "returns" ∨ word = "return" then .result
  else if word = "example" then .sample
  else if word = "name" then .name
  else if word = "alias" then .label
  else if word = "file" ∨ word = "fileoverview" ∨ word = "overview" then .file
  else .unknown

def isTagChar (c : Char) : Bool :=
  Text.isAlphanumeric c || c == '_'

/-- The word of a tag and the text behind it, which a blank divides from the word. -/
def splitTag (line : List Char) : Option (String × List Char) :=
  match Text.trimStart line with
  | '@' :: rest =>
    let word := rest.takeWhile isTagChar
    let payload := rest.dropWhile isTagChar
    if !word.isEmpty && (payload.isEmpty || payload.head?.any Text.isBlank) then
      some (String.ofList word, payload)
    else none
  | _ => none

end Commentary.Comment
