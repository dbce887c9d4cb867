import Commentary.Script.Declaration

/-! Imports and exports. -/
namespace Commentary.Script.Grammar

open Reading

variable (go : Grammar)

/-- Attributes of an import. -/
def attributes : Reading Unit := do
  if (← seesWord "with") || ((← seesWord "assert") && !(← isFresh)) then
    bump
    expect curly
    let _ ← listed uncurly do
      if ← seesQuoted then bump
      else
        let _ ← anyWord
      expect ":"
      let _ ← quotedText
    expect uncurly

def source : Reading Unit := do
  expectWord "from"
  let _ ← quotedText
  attributes
  endStatement

/- `type` before a further name makes a specifier one for types only. -/
def typeMark : Reading Unit := do
  if (← typescript) && (← seesWord "type") then
    let applies ← afterwards do
      return ((← seesAnyWord) && !(← seesWord "as")) || (← seesQuoted)
    if applies then bump

/-- A name as other modules see it, and whether it can be a name in this one. -/
def outerName : Reading (String × Bool) := do
  match ← lexeme with
  | .word w _ => bump; return (w, !reserved.contains w)
  | .quoted value => bump; return (value, false)
  | _ => unexpected

def importSpecifier : Reading Unit := do
  typeMark
  let (_, usable) ← outerName
  if ← eatWord "as" then
    let _ ← name
  else if !usable then unexpected

def importSpecifiers : Reading Unit := do
  expect curly
  let _ ← listed uncurly importSpecifier
  expect uncurly

def importedSpace : Reading Unit := do
  expect "*"
  expectWord "as"
  let _ ← name

/- Words before the imported names say how to import them, unless they are names. -/
def importPhase : Reading Unit := do
  let named : Reading Bool := afterwards do return (← seesName) && !(← seesWord "from")
  if (← typescript) && (← seesWord "type") then
    if (← named) || (← afterwards do return (← sees curly) || (← sees "*")) then bump
  else if ← seesWord "defer" then
    if ← afterwards (sees "*") then bump
  else if ← seesWord "source" then
    if ← named then bump

/-- The names an import binds, up to its source. -/
def importClause : Reading Unit := do
  importPhase
  if ← sees "*" then
    importedSpace
    source
  else if ← sees curly then
    importSpecifiers
    source
  else
    let _ ← name
    if (← typescript) && (← sees "=") then aliasRest
    else
      if ← eat "," then
        if ← sees "*" then importedSpace else importSpecifiers
      source

def importStatement : Reading Form := do
  expectWord "import"
  if ← seesQuoted then
    bump
    attributes
    endStatement
  else importClause
  return .other

/-- A name an export gives and whether it may refer to this module. -/
def exportSpecifier : Reading (String × Bool) := do
  typeMark
  let (inner, usable) ← outerName
  if ← eatWord "as" then
    let (outer, _) ← outerName
    return (outer, usable)
  return (inner, usable)

/- Names of another module may be anything, names of this one may not. -/
def exportSpecifiers : Reading (List String) := do
  expect curly
  let (list, _) ← listed uncurly exportSpecifier
  expect uncurly
  if ← seesWord "from" then source
  else
    reportIf (list.any fun s => !s.2)
    endStatement
  return list.map Prod.fst

def exportAll : Reading (List String) := do
  expect "*"
  let names ← if ← eatWord "as" then pure [(← outerName).1] else pure []
  source
  return names

def seesAbstractClass : Reading Bool := do
  if !(← typescript) || !(← seesWord "abstract") then return false
  afterwards do return (← seesWord "class") && !(← isFresh)

def classHere : Reading Declaration := do
  decorators go
  if ← seesAbstractClass then bump
  classFromKeyword go

def seesInterface : Reading Bool := do
  if !(← typescript) || !(← seesWord "interface") then return false
  afterwards do return (← seesName) && !(← isFresh)

/-- What a default export gives, and where it starts. An expression that is a bare name gives
that name. -/
def exportDefault : Reading Form := do
  expectWord "default"
  let inner ← offset
  if (← seesWord "class") || (← sees "@") || (← seesAbstractClass) then
    return .exporting (some (inner, ← classHere go))
  if ← seesInterface then return .exporting (some (inner, ← interfaceDeclaration go))
  if ← seesFunction then return .exporting (some (inner, ← functionDeclaration go true))
  let e ← go (.assignment true)
  endStatement
  match e.shape with
  | .identifier n => return .exporting (some (inner, .named n))
  | _ => return .exporting (some (inner, .other))

def exportDeclaration : Reading (Form × List String) := do
  let inner ← offset
  decorators go
  let (d, names) ← modifiedDeclaration go
  return (.exporting (some (inner, d)), names)

/-- An export behind its first word: its form and the names it gives. -/
def exportRest : Reading (Form × List String) := do
  if ← sees "*" then return (.exporting none, ← exportAll)
  if ← sees curly then return (.exporting none, ← exportSpecifiers)
  if ← seesWord "default" then return (← exportDefault go, ["default"])
  if ← typescript then
    if ← eat "=" then
      let _ ← go .expression
      endStatement
      return (.other, [])
    if (← seesWord "as") && (← afterwards (seesWord "namespace")) then
      bump
      bump
      let _ ← name
      endStatement
      return (.other, [])
    if ← seesWord "type" then
      if ← afterwards (sees curly) then
        bump
        return (.exporting none, ← exportSpecifiers)
      if ← afterwards (sees "*") then
        bump
        return (.exporting none, ← exportAll)
  exportDeclaration go

end Commentary.Script.Grammar
