import Commentary.Comment.Lines

/-! Examples. Code is fenced unless it already is. -/
namespace Commentary.Comment

def isFence (line : List Char) : Bool :=
  "```".toList.isPrefixOf (Text.trimStart line)

/-- An example from its caption line on. -/
def renderExample (list : List (List Char)) : Option String :=
  if list.any isFence then content list
  else
    let caption := Text.nonBlank (list.headD [])
    let code := content (list.drop 1)
    if caption.isNone && code.isNone then none
    else some ("\n".intercalate (caption.toList ++ ["```js"] ++ code.toList ++ ["```"]))

end Commentary.Comment
