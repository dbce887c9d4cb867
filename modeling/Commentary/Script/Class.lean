import Commentary.Script.Function

/-! Classes. -/
namespace Commentary.Script.Grammar

open Reading

variable (go : Grammar)

def heritage : Reading Unit := do
  if ← eatWord "extends" then
    let _ ← go .access
    if ← typescript then typeArgumentsHere go
  if ← typescript then
    if ← eatWord "implements" then
      let _ ← listed curly do
        entityName
        typeArgumentsHere go

/-- A class from the word `class` on. Its name may be missing. -/
def classFromKeyword : Reading Declaration := do
  expectWord "class"
  let named ←
    if (← seesName) && !(← seesWord "implements") then name else pure ""
  typeParameters go
  heritage go
  go .classBody
  return .named named

/- A method without a body is a signature and ends like a statement. -/
def methodRest (async generator : Bool) (owner : Owner) : Reading Signature := do
  let (signature, full) ← routine go async generator owner
  if !full then
    if ← typescript then endStatement else unexpected
  return signature

def fieldRest : Reading Unit := do
  let _ ← typeNote go
  let _ ← inFunction false false (initial go)
  endStatement

def accessorRest (getter : Bool) : Reading Unit := do
  propertyName go
  let signature ← methodRest go false false .plain
  let count := signature.params.length
  reportIf (if getter then count != 0 || signature.rest.isSome
    else count != 1 || signature.rest.isSome)

def staticBlock : Reading Unit := do
  bump
  withReader (fun s =>
      { s with membership := true, awaits := true, yields := false, returns := false })
    (statements go)

def namedMember (found : List String) : Reading Unit := do
  let generator ← eat "*"
  let constructor :=
    ((← seesWord "constructor") || (← lexeme) = .quoted "constructor") && !found.contains "static"
  propertyName go
  if ← typescript then
    if !(← eat "?") then
      if !(← isFresh) then
        let _ ← eat "!"
  if generator || (← sees "(") || ((← typescript) && (← sees "<")) then
    let async := found.contains "async"
    reportIf (constructor && (async || generator))
    let _ ← methodRest go async generator (if constructor then .constructor else .plain)
  else
    reportIf (constructor || found.contains "async")
    fieldRest go

def plainModifiers : List String := ["static", "async", "accessor"]

def classMember : Reading Unit := do
  if ← eat ";" then return
  decorators go
  if (← seesWord "static") && (← afterwards (sees curly)) then staticBlock go
  else
    let found ← modifiers memberModifiers
    if !(← typescript) then reportIf (found.any fun w => !plainModifiers.contains w)
    if ← seesAccessor "get" then
      bump
      accessorRest go true
    else if ← seesAccessor "set" then
      bump
      accessorRest go false
    else if (← typescript) && (← seesIndexSignature) then
      indexSignature go
      endMember
    else namedMember go found

def classBody : Reading Unit := do
  expect curly
  let _ ← withReader ({ · with decorating := false }) (manyUntil (sees uncurly) (classMember go))
  expect uncurly

end Commentary.Script.Grammar
