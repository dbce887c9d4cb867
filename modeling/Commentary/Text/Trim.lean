import Commentary.Text.Blank

/-! Cutting white space off the ends of a text. -/
namespace Commentary.Text

def trimStart (text : List Char) : List Char :=
  text.dropWhile isBlank

def trimEnd (text : List Char) : List Char :=
  (text.reverse.dropWhile isBlank).reverse

def trim (text : List Char) : List Char :=
  trimEnd (trimStart text)

/-- The trimmed text, if anything is left of it. -/
def nonBlank (text : List Char) : Option String :=
  if (trim text).isEmpty then none else some (String.ofList (trim text))

end Commentary.Text
