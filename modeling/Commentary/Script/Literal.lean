import Commentary.Script.Class

/-! Arrays and objects, which may turn out to be patterns. -/
namespace Commentary.Script.Grammar

open Reading

variable (go : Grammar)

/-- One item of a literal: whether it can stand in a pattern, which defaults that would
settle, and whether it spreads. -/
structure Item where
  fits : Bool
  covers : List Nat := []
  spread : Bool := false

/- Nothing may follow what spreads, in a pattern. -/
def literalOf (items : List Item) (trailing : Bool) : Expr :=
  let early := items.dropLast.any Item.spread || (trailing && (items.getLast?.any Item.spread))
  if items.all Item.fits && !early then
    { target := .pattern, covers := items.flatMap Item.covers }
  else {}

def value : Reading Expr :=
  withReader ({ · with membership := true, decorating := false }) (go (.assignment true))

def arrayItem : Reading Item := do
  if ← sees "," then return ⟨true, [], false⟩
  let spread ← eat "..."
  let e ← value go
  return ⟨if spread then e.target = .simple || e.target = .pattern else e.target.isElement,
    e.covers, spread⟩

def arrayLiteral : Reading Expr := do
  expect "["
  let (items, trailing) ← listed "]" (arrayItem go)
  expect "]"
  return literalOf items trailing

def objectItem : Reading Item := do
  if ← eat "..." then
    let e ← value go
    return ⟨e.target = .simple, [], true⟩
  let found ← modifiers ["async"]
  if ← seesAccessor "get" then
    bump
    accessorRest go true
    return ⟨false, [], false⟩
  if ← seesAccessor "set" then
    bump
    accessorRest go false
    return ⟨false, [], false⟩
  let generator ← eat "*"
  let short ← seesName
  let start ← offset
  propertyName go
  if generator || (← sees "(") || ((← typescript) && (← sees "<")) then
    let _ ← fullRoutine go (!found.isEmpty) generator
    return ⟨false, [], false⟩
  reportIf (!found.isEmpty)
  if short && !(← sees ":") then
    if ← eat "=" then
      let _ ← value go
      modify fun c => { c with covers := start :: c.covers }
      return ⟨true, [start], false⟩
    return ⟨true, [], false⟩
  expect ":"
  let e ← value go
  return ⟨e.target.isElement, e.covers, false⟩

def objectLiteral : Reading Expr := do
  expect curly
  let (items, trailing) ← listed uncurly (objectItem go)
  expect uncurly
  return literalOf items trailing

/-- Reads an expression as what an assignment writes to. -/
def retarget (e : Expr) (patterns : Bool) : Reading Unit := do
  if e.target = .simple || (patterns && e.target = .pattern) then
    modify fun c => { c with covers := c.covers.filter fun n => !e.covers.contains n }
  else unexpected

end Commentary.Script.Grammar
