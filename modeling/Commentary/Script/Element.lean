import Commentary.Script.Type

/-! Elements written as tags inside a script. Between the tags everything but braces and tags
is text, comments included. -/
namespace Commentary.Script.Grammar

open Reading

variable (go : Grammar)

def tagWord : Reading String := do
  if !(← seesAnyWord) then unexpected
  advance fun c => c.reread tagLexeme
  anyWord

/-- A tag name: one word, two with a colon, or several with dots. -/
def tagName : Reading String := do
  let first ← tagWord
  if ← eat ":" then
    return first ++ ":" ++ (← tagWord)
  iterate (fun name => do
    if ← eat "." then return .inl (name ++ "." ++ (← anyWord))
    return .inr name) first

def embedded : Reading Unit := do
  let _ ← withReader ({ · with membership := true, decorating := false }) (go .expression)

/- Right behind the equals sign a quote opens a plain attribute value. -/
def attributeValue : Reading Unit := do
  advance fun c =>
    if c.rest.head?.any fun q => q == '"' || q == quoteMark then c.nextRaw attributeLexeme
    else c.next
  match ← lexeme with
  | .quoted _ => bump
  | .mark "<" =>
    bump
    go (.element false)
  | _ =>
    expect curly
    embedded go
    expect uncurly

def tagAttribute : Reading Unit := do
  if ← eat curly then
    expect "..."
    embedded go
    expect uncurly
  else
    let _ ← tagWord
    if ← eat ":" then
      let _ ← tagWord
    if ← sees "=" then attributeValue go

def enterChildren : Reading Unit := advance fun c => c.nextRaw childLexeme

/-- Children up to the slash of the closing tag. -/
def children : Reading Unit :=
  iterate (fun _ => do
    match ← lexeme with
    | .text =>
      enterChildren
      return .inl ()
    | .mark "<" =>
      bump
      if ← sees "/" then return .inr ()
      go (.element true)
      return .inl ()
    | _ =>
      expect curly
      if !(← sees uncurly) then
        let _ ← eat "..."
        embedded go
      if !(← sees uncurly) then unexpected
      enterChildren
      return .inl ()) ()

def closeTag (child : Bool) : Reading Unit := do
  if !(← sees ">") then unexpected
  if child then enterChildren else bump

/-- An element from behind its opening angle. -/
def element (child : Bool) : Reading Unit := do
  if ← sees ">" then
    enterChildren
    children go
    expect "/"
    closeTag child
  else
    let opened ← tagName
    if (← typescript) && (← seesTypeArguments) then typeArguments go
    let _ ← manyUntil (return (← sees ">") || (← sees "/")) (tagAttribute go)
    if ← eat "/" then closeTag child
    else
      enterChildren
      children go
      expect "/"
      let closed ← tagName
      reportIf (opened != closed)
      closeTag child

end Commentary.Script.Grammar
