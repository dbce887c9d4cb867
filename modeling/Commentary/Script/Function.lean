import Commentary.Script.Type

/-! Binding patterns, parameters and function bodies. -/
namespace Commentary.Script.Grammar

open Reading

variable (go : Grammar)

def decorators : Reading Unit := do
  let _ ← manyUntil (return !(← sees "@")) do
    bump
    withReader ({ · with decorating := true }) (go .access)

/-- The value behind an equals sign, if there is one. -/
def initial : Reading (Option Span) := do
  if ← eat "=" then
    return some (← spanOf do
      let _ ← withReader ({ · with membership := true }) (go (.assignment true)))
  else return none

def boundElement : Reading (List String) := do
  let p ← go .pattern
  let _ ← initial go
  return p.names

def arrayPattern : Reading Pattern := do
  expect "["
  let names ← iterate (fun (names : List String) => do
    if ← sees "]" then return .inr names
    if ← eat "," then return .inl names
    if ← eat "..." then
      let p ← go .pattern
      reportIf (!(← sees "]"))
      let _ ← eat ","
      return .inl (names ++ p.names)
    let more ← boundElement go
    if !(← sees "]") then expect ","
    return .inl (names ++ more)) []
  expect "]"
  return ⟨none, names⟩

def boundProperty : Reading (List String) := do
  if ← eat "..." then
    let p ← go .pattern
    reportIf (p.name.isNone || !(← sees uncurly))
    return p.names
  let shorthand := (← seesName) && !(← afterwards (sees ":"))
  if shorthand then
    let w ← name
    let _ ← initial go
    return [w]
  propertyName go
  expect ":"
  boundElement go

def objectPattern : Reading Pattern := do
  expect curly
  let (names, _) ← listed uncurly (boundProperty go)
  expect uncurly
  return ⟨none, names.flatten⟩

def pattern : Reading Pattern := do
  if ← sees "[" then arrayPattern go
  else if ← sees curly then objectPattern go
  else
    let w ← name
    return ⟨some w, [w]⟩

/-- The text of a parameter runs over its question mark and its type, not over its default. -/
def parameter (owner : Owner) : Reading Parameter := do
  decorators go
  let found ← modifiers parameterModifiers
  reportIf (!found.isEmpty && (owner != .constructor || !(← typescript)))
  let start ← offset
  let p ← go .pattern
  let optional ← if ← typescript then eat "?" else pure false
  let type ← typeNote go
  let span := ⟨start, ← reached⟩
  return ⟨p.name, span, optional, type, ← initial go⟩

/-- The text of a rest parameter is its pattern alone. -/
def restParameter : Reading Parameter := do
  expect "..."
  let start ← offset
  let p ← go .pattern
  let span := ⟨start, ← reached⟩
  if ← typescript then reportIf (← eat "?")
  let type ← typeNote go
  reportIf (← initial go).isSome
  reportIf (!(← sees ")"))
  return { name := p.name, span := span, type := type }

def parameters (owner : Owner) : Reading Signature := do
  expect "("
  if ← typescript <&&> eatWord "this" then
    let _ ← typeNote go
    if !(← sees ")") then expect ","
  let (list, _) ← listed ")" do
    if ← sees "..." then return Sum.inr (← restParameter go)
    else return Sum.inl (← parameter go owner)
  expect ")"
  return {
    params := list.filterMap Sum.getLeft?
    rest := (list.filterMap Sum.getRight?).getLast? }

def inFunction {α : Type} (async generator : Bool) (p : Reading α) : Reading α :=
  withReader (fun s =>
    { s with membership := true, awaits := async, yields := generator, returns := true
             decorating := false, unconditional := false }) p

def statements : Reading Unit := do
  expect curly
  let _ ← manyUntil (sees uncurly) (go (.statement .list))
  expect uncurly

/-- Parameters, result and body. Only declarations may lack a body. -/
def routine (async generator : Bool) (owner : Owner) : Reading (Signature × Bool) :=
  inFunction async generator do
    typeParameters go
    let signature ← go (.parameters owner)
    let returns ← returnNote go
    let full ← sees curly
    if full then
      reportIf (← read).ambient
      statements go
    return ({ signature with returns := returns }, full)

/-- A function with a body. -/
def fullRoutine (async generator : Bool) : Reading Signature := do
  let (signature, full) ← routine go async generator .plain
  if !full then unexpected
  return signature

/-- A function from its first word on. A declaration has a name and may be a bare signature. -/
def functionDeclaration (nameless : Bool) : Reading Declaration := do
  let async ← eatWord "async"
  expectWord "function"
  let generator ← eat "*"
  let named ← if ← seesName then pure (some (← anyWord)) else pure none
  reportIf (named.isNone && !nameless)
  let (signature, full) ← routine go async generator .plain
  if !full then
    if ← typescript then endStatement else unexpected
  return .routine named signature

def functionExpression : Reading Expr := do
  let async ← eatWord "async"
  expectWord "function"
  let generator ← eat "*"
  inFunction async generator do
    if ← seesName then
      let _ ← name
  let _ ← fullRoutine go async generator
  return {}

def seesFunction : Reading Bool := do
  if ← seesWord "function" then return true
  if !(← seesWord "async") then return false
  afterwards do return (← seesWord "function") && !(← isFresh)

end Commentary.Script.Grammar
