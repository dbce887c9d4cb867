import Commentary.Script.Shape
import Commentary.Script.Modifier

/-! Types. Their meaning is not needed, only where they end. -/
namespace Commentary.Script.Grammar

open Reading

variable (go : Grammar)

def spanOf (p : Reading Unit) : Reading Span := do
  let start ← offset
  p
  return ⟨start, ← reached⟩

/-- The rest of a template whose first piece is at the cursor. Malformed escapes are allowed
where a tag receives them. -/
def template (tagged : Bool) (substitution : Reading Unit) : Reading Unit :=
  iterate (fun _ => do
    match ← lexeme with
    | .template closes sound =>
      reportIf (!sound && !tagged)
      bump
      if closes then return .inr ()
      substitution
      if !(← sees uncurly) then unexpected
      advance fun c => c.reread templateLexeme
      return .inl ()
    | _ => unexpected) ()

def propertyName : Reading Unit := do
  match ← lexeme with
  | .word _ _ | .quoted _ | .number | .privateName _ => bump
  | .mark "[" =>
    bump
    let _ ← withReader ({ · with membership := true }) (go (.assignment true))
    expect "]"
  | _ => unexpected

/-- Words with dots between them. -/
def entityName : Reading Unit := do
  let _ ← anyWord
  iterate (fun _ => do
    if ← eat "." then
      match ← lexeme with
      | .privateName _ => bump
      | _ => let _ ← anyWord
      return .inl ()
    else return .inr ()) ()

def seesTypeArguments : Reading Bool := do
  return (← sees "<") || (← sees "<<")

def typeArguments : Reading Unit := do
  advance fun c => c.reread openingLexeme
  expect "<"
  let (list, _) ← listed ">" (go .type)
  reportIf list.isEmpty
  expect ">"

def typeArgumentsHere : Reading Unit := do
  if !(← isFresh) && (← seesTypeArguments) then typeArguments go

def typeParameters : Reading Unit := do
  if ← typescript <&&> eat "<" then
    let (list, _) ← listed ">" do
      let _ ← modifiers ["const", "in", "out"]
      let _ ← name
      if ← eatWord "extends" then go .type
      if ← eat "=" then go .type
    reportIf list.isEmpty
    expect ">"

/-- The type behind a colon, if there is one. -/
def typeNote : Reading (Option Span) := do
  if ← typescript <&&> eat ":" then return some (← spanOf (go .type)) else return none

/-- A type, or what a result says about an argument. -/
def returnedType : Reading Unit := do
  let predicate := (← seesName) && (← afterwards do return (← seesWord "is") && !(← isFresh))
  if predicate then
    bump
    bump
  go .type

def returnNote : Reading (Option Span) := do
  if ← typescript <&&> eat ":" then return some (← spanOf (returnedType go)) else return none

def startsType : Reading Bool := do
  match ← lexeme with
  | .quoted _ | .number | .template _ _ => return true
  | .word w _ =>
    return !reserved.contains w ||
      ["void", "null", "this", "typeof", "true", "false", "new", "import"].contains w
  | .mark m => return [curly, "[", "<", "|", "&", "(", "-", "*", "?", "!", "..."].contains m
  | _ => return false

/- A parenthesis opens the parameters of a function type if what follows can be nothing else. -/
def opensParameters : Reading Bool := glance do
  bump
  if (← sees ")") || (← sees "...") then return true
  let _ ← modifiers parameterModifiers
  if (← seesName) || (← seesWord "this") then bump
  else if (← sees "[") || (← sees curly) then
    let _ ← go .pattern
  else return false
  match ← lexeme with
  | .mark ")" => bump; sees "=>"
  | .mark m => return [":", ",", "?", "="].contains m
  | _ => return false

def startsFunctionType : Reading Bool := do
  match ← lexeme with
  | .mark "<" => return true
  | .mark "(" => opensParameters go
  | .word "new" false => return true
  | .word "abstract" false => afterwards (seesWord "new")
  | _ => return false

def functionType : Reading Unit := do
  let _ ← eatWord "abstract"
  let _ ← eatWord "new"
  typeParameters go
  let _ ← go (.parameters .plain)
  expect "=>"
  returnedType go

def callSignature : Reading Unit := do
  typeParameters go
  let _ ← go (.parameters .plain)
  let _ ← returnNote go

def seesIndexSignature : Reading Bool := do
  if !(← sees "[") then return false
  afterwards do
    if !(← seesName) then return false
    bump
    return (← sees ":") || (← sees ",")

def indexSignature : Reading Unit := do
  expect "["
  let _ ← go .pattern
  let _ ← typeNote go
  expect "]"
  let _ ← typeNote go

def endMember : Reading Unit := do
  if !(← eat ",") then endStatement

def seesAccessor (w : String) : Reading Bool := do
  return (← seesWord w) && (← afterwards canFollowModifier)

def typeMember : Reading Unit := do
  if (← sees "(") || (← sees "<") then callSignature go
  else if (← seesWord "new") && (← afterwards do return (← sees "(") || (← sees "<")) then
    bump
    callSignature go
  else
    let found ← modifiers memberModifiers
    reportIf (found.any (· != "readonly"))
    if (← seesAccessor "get") || (← seesAccessor "set") then
      bump
      propertyName go
      callSignature go
    else if ← seesIndexSignature then indexSignature go
    else
      propertyName go
      let _ ← eat "?"
      if (← sees "(") || (← sees "<") then callSignature go
      else let _ ← typeNote go
  endMember

/-- Members between braces: the body of an interface or a type written out. -/
def typeMembers : Reading Unit := do
  expect curly
  let _ ← manyUntil (sees uncurly) (typeMember go)
  expect uncurly

def seesMapped : Reading Bool := afterwards do
  if (← sees "+") || (← sees "-") then
    bump
    return ← seesWord "readonly"
  let _ ← eatWord "readonly"
  if !(← eat "[") then return false
  if !(← seesName) then return false
  bump
  seesWord "in"

/-- A type for every key of another type. -/
def mappedType : Reading Unit := do
  expect curly
  if ← eat "+" <||> eat "-" then expectWord "readonly"
  else let _ ← eatWord "readonly"
  expect "["
  let _ ← name
  expectWord "in"
  go .type
  if ← eatWord "as" then go .type
  expect "]"
  if ← eat "+" <||> eat "-" then expect "?"
  else let _ ← eat "?"
  let _ ← typeNote go
  endMember
  expect uncurly

def seesMemberLabel : Reading Bool := do
  if !(← seesAnyWord) then return false
  afterwards do
    if ← eat "?" then sees ":" else sees ":"

def tupleMember : Reading Unit := do
  let _ ← eat "..."
  if ← seesMemberLabel then
    bump
    let _ ← eat "?"
    expect ":"
  go .type
  let _ ← eat "?"

def importType : Reading Unit := do
  expectWord "import"
  expect "("
  go .type
  if ← eat "," then
    if !(← sees ")") then
      let _ ← go (.assignment true)
      let _ ← eat ","
  expect ")"
  if ← eat "." then entityName
  typeArgumentsHere go

def isOrdinary (w : String) : Bool :=
  !reserved.contains w || ["void", "null", "true", "false"].contains w

def primaryType : Reading Unit := do
  match ← lexeme with
  | .quoted _ | .number => bump
  | .template _ _ => template false (go .type)
  | .mark "-" =>
    bump
    match ← lexeme with
    | .number => bump
    | _ => unexpected
  | .mark "[" =>
    bump
    let _ ← listed "]" (tupleMember go)
    expect "]"
  | .mark "(" =>
    bump
    go .type
    expect ")"
  | .mark m =>
    if m != curly then unexpected
    else if ← seesMapped then mappedType go
    else typeMembers go
  | .word "this" _ =>
    bump
    if ← isUnbroken <&&> eatWord "is" then go .type
  | .word "typeof" _ =>
    bump
    if ← seesWord "import" then importType go
    else
      entityName
      typeArgumentsHere go
  | .word "import" _ => importType go
  | .word w _ =>
    if w == "asserts" then
      let about ← afterwards do
        return ((← seesName) || (← seesWord "this")) && !(← isFresh)
      if about then
        bump
        bump
        if ← isUnbroken <&&> eatWord "is" then go .type
        return
    if !isOrdinary w then unexpected
    entityName
    typeArgumentsHere go
  | _ => unexpected

def arrayType : Reading Unit := do
  primaryType go
  iterate (fun _ => do
    if ← isFresh then return .inr ()
    match ← lexeme with
    | .mark "!" => bump; return .inl ()
    | .mark "?" =>
      if ← afterwards startsType then return .inr ()
      bump
      return .inl ()
    | .mark "[" =>
      bump
      if !(← sees "]") then go .type
      expect "]"
      return .inl ()
    | _ => return .inr ()) ()

/- A constraint of an inferred type is none if it turns out to be the condition of a
conditional type. -/
def inferredConstraint : Reading Unit := do
  let outer := (← read).unconditional
  let _ ← attempt do
    expectWord "extends"
    withReader ({ · with unconditional := true }) (go .type)
    if !outer && (← sees "?") then unexpected

def operatedType : Reading Unit := do
  iterate (fun _ => do
    if ← eatWord "keyof" <||> eatWord "unique" <||> eatWord "readonly" then return .inl ()
    return .inr ()) ()
  if ← eatWord "infer" then
    let _ ← name
    inferredConstraint go
  else withReader ({ · with unconditional := false }) (arrayType go)

/-- Operands joined by a mark, which may also stand before the first of them. -/
def joinedType (m : String) (operand : Reading Unit) : Reading Unit := do
  let _ ← eat m
  let checked : Reading Unit := do
    if ← startsFunctionType go then
      report
      functionType go
    else operand
  checked
  iterate (fun _ => do
    if ← eat m then
      checked
      return .inl ()
    else return .inr ()) ()

def typeExpr : Reading Unit := do
  if ← startsFunctionType go then functionType go
  else
    joinedType go "|" (joinedType go "&" (operatedType go))
    if ← pure !(← read).unconditional <&&> isUnbroken <&&> eatWord "extends" then
      withReader ({ · with unconditional := true }) (go .type)
      withReader ({ · with unconditional := false }) do
        expect "?"
        go .type
        expect ":"
        go .type

end Commentary.Script.Grammar
