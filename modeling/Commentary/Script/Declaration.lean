import Commentary.Script.Expression

/-! Declarations. Each is read together with the names it binds. -/
namespace Commentary.Script.Grammar

open Reading

variable (go : Grammar)

/-- One declarator. Outside a loop head, constants and patterns need a value. -/
def declarator (constant head : Bool) : Reading Pattern := do
  let p ← go .pattern
  if ← typescript then
    if p.name.isSome && !(← isFresh) then
      let _ ← eat "!"
    let _ ← eat "?"
  let _ ← typeNote go
  let given ← eat "="
  if given then
    let _ ← go (.assignment true)
  reportIf (!given && !head && !(← read).ambient && (constant || p.name.isNone))
  return p

def declarators (constant head : Bool) : Reading (List Pattern) := do
  let first ← declarator go constant head
  let more ← iterate (fun more => do
    if ← eat "," then return .inl ((← declarator go constant head) :: more)
    return .inr more) []
  return first :: more.reverse

def bindings (constant : Bool) : Reading (Declaration × List String) := do
  let list ← declarators go constant false
  endStatement
  return (.bindings (list.map Pattern.name), list.flatMap Pattern.names)

def enumDeclaration : Reading Declaration := do
  expectWord "enum"
  let n ← name
  expect curly
  let _ ← listed uncurly do
    propertyName go
    initial go
  expect uncurly
  return .named n

def interfaceDeclaration : Reading Declaration := do
  expectWord "interface"
  let n ← name
  typeParameters go
  if ← eatWord "extends" then
    let _ ← listed curly do
      entityName
      typeArgumentsHere go
  typeMembers go
  return .named n

def aliasDeclaration : Reading Declaration := do
  expectWord "type"
  let n ← name
  typeParameters go
  expect "="
  go .type
  endStatement
  return .named n

/-- A namespace is labelled by its first name, a quoted module by its quoted text. -/
def namespaceDeclaration : Reading Declaration := do
  bump
  let t ← token
  let label : Span := ⟨t.start, t.stop⟩
  if ← seesQuoted then
    bump
    if ← sees curly then statements go else endStatement
  else
    let _ ← name
    iterate (fun _ => do
      if ← eat "." then
        let _ ← name
        return .inl ()
      return .inr ()) ()
    statements go
  return .labelled label

/-- An imported name for an entity or a required module, from the equals sign on. -/
def aliasRest : Reading Unit := do
  expect "="
  if (← seesWord "require") && (← afterwards (sees "(")) then
    bump
    bump
    let _ ← quotedText
    expect ")"
  else entityName
  endStatement

def importAlias : Reading Declaration := do
  expectWord "import"
  let first ← name
  if first == "type" && (← seesName) then
    let _ ← name
  aliasRest
  return .other

def typedDeclaration (w : String) : Reading Declaration := do
  match w with
  | "import" => importAlias
  | "namespace" => namespaceDeclaration go
  | "module" => namespaceDeclaration go
  | "global" =>
    bump
    statements go
    return .other
  | "type" => aliasDeclaration go
  | "enum" => enumDeclaration go
  | "interface" => interfaceDeclaration go
  | _ => unexpected

/-- A declaration behind its modifiers and decorators. -/
def declaration : Reading (Declaration × List String) := do
  match ← word? with
  | none => unexpected
  | some w =>
    if w == "var" || w == "let" then
      bump
      bindings go false
    else if w == "const" then
      bump
      if (← typescript) && (← seesWord "enum") then return (← enumDeclaration go, [])
      bindings go true
    else if w == "class" then
      let d ← classFromKeyword go
      match d with
      | .named n => return (d, [n])
      | _ => return (d, [])
    else if ← seesFunction then
      let d ← functionDeclaration go false
      match d with
      | .routine n _ => return (d, n.toList)
      | _ => return (d, [])
    else if ← typescript then return (← typedDeclaration go w, [])
    else unexpected

def declarationModifiers : List String :=
  ["declare", "abstract", "public", "private", "protected", "static", "readonly", "accessor"]

/-- A declaration with its modifiers. Only classes are abstract. -/
def modifiedDeclaration : Reading (Declaration × List String) := do
  let found ← if ← typescript then modifiers declarationModifiers else pure []
  reportIf (found.any fun w => w != "declare" && w != "abstract")
  reportIf (found.contains "abstract" && !(← seesWord "class"))
  withReader (fun s => { s with ambient := s.ambient || found.contains "declare", awaits := false })
    (declaration go)

/- The word that starts a typed declaration is a name like any other unless the right thing
follows it on the same line. -/
def seesTypedDeclaration : Reading Bool := do
  if !(← typescript) then return false
  glance do
    let answer ← iterate (fun (_ : Option Bool) => do
      match ← word? with
      | none => return .inr (some false)
      | some w =>
        if ["var", "let", "const", "function", "class", "enum"].contains w then
          return .inr (some true)
        if w == "interface" || w == "type" then
          bump
          return .inr (some ((← seesName) && !(← isFresh)))
        if w == "module" || w == "namespace" then
          bump
          return .inr (some (((← seesName) || (← seesQuoted)) && !(← isFresh)))
        if w == "global" then
          bump
          return .inr (some ((← seesName) || (← sees curly) || (← seesWord "export")))
        if w == "import" then
          bump
          return .inr (some ((← seesAnyWord) || (← seesQuoted) || (← sees "*") || (← sees curly)))
        if w == "static" then
          bump
          return .inl none
        if ["abstract", "accessor", "async", "declare", "private", "protected", "public",
            "readonly"].contains w then
          bump
          if ← isFresh then return .inr (some false)
          return .inl none
        return .inr (some false)) none
    return answer == some true

end Commentary.Script.Grammar
