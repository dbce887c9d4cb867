import Commentary.Script.Literal

/-! Arrow functions, told apart from parentheses, calls and elements by what stands ahead. -/
namespace Commentary.Script.Grammar

open Reading

variable (go : Grammar)

inductive Likelihood where
  | no
  | yes
  | maybe

def Likelihood.ofBool (b : Bool) : Likelihood := if b then .yes else .no

def allModifiers : List String :=
  memberModifiers ++ ["const", "default", "export", "in", "out"]

/-- Decides on the parameters whose parenthesis was just read. -/
def parametersAhead : Reading Likelihood := do
  match ← lexeme with
  | .mark ")" =>
    bump
    return .ofBool ((← sees "=>") || (← sees ":") || (← sees curly))
  | .mark "..." =>
    bump
    match ← lexeme with
    | .word w _ => return .ofBool (!reserved.contains w)
    | .number | .quoted _ => return .no
    | _ => return .maybe
  | .mark m => return if m == "[" || m == curly then .maybe else .no
  | .word w _ =>
    if w != "async" && allModifiers.contains w && (← afterwards seesName) then
      return .ofBool (!(← afterwards (seesWord "as")))
    if reserved.contains w && w != "this" then return .no
    bump
    match ← lexeme with
    | .mark ":" => return .yes
    | .mark "?" =>
      bump
      return .ofBool ((← sees ":") || (← sees ",") || (← sees "=") || (← sees ")"))
    | .mark m => return if [",", "=", ")"].contains m then .maybe else .no
    | _ => return .no
  | _ => return .no

/-- Decides on the type parameters whose angle was just read. Where elements are written the
same way, only a constraint, a default or a comma tells them apart. -/
def typeParametersAhead : Reading Likelihood := do
  if !(← seesName) && !(← seesWord "const") then return .no
  if !(← read).dialect.jsx then return .maybe
  let _ ← eatWord "const"
  bump
  if ← eatWord "extends" then
    return .ofBool !((← sees "=") || (← sees ">") || (← sees "/"))
  return .ofBool ((← sees ",") || (← sees "="))

def arrowAhead : Reading Likelihood := foresee .no do
  if ← eatWord "async" then
    if ← isFresh then return .no
  if ← eat "(" then parametersAhead
  else if ← typescript <&&> eat "<" then typeParametersAhead
  else return .no

/-- Everything of an arrow function before its arrow: whether it is asynchronous, and whether
it has a return type. -/
def arrowHead : Reading (Bool × Bool) := do
  let async ← eatWord "async"
  inFunction async false do
    typeParameters go
    let _ ← go (.parameters .plain)
    let returns ← returnNote go
    if !(← sees "=>") then unexpected
    return (async, returns.isSome)

def arrowBody (async returnType : Bool) : Reading Expr := do
  reportIf (← isFresh)
  expect "=>"
  if ← sees curly then inFunction async false (statements go)
  else
    let _ ← withReader ({ · with awaits := async, yields := false, decorating := false })
      (go (.assignment returnType))
  return {}

/- Inside the first branch of a condition a colon ends the branch, so a return type there needs
a second colon behind the body. -/
def ambiguousArrow (returnType : Bool) : Reading (Option Expr) := do
  if returnType then
    match ← attempt (arrowHead go) with
    | some (async, _) => return some (← arrowBody go async true)
    | none => return none
  else attempt do
    let (async, typed) ← arrowHead go
    let e ← arrowBody go async false
    if typed && !(← sees ":") then unexpected
    return e

def parenthesizedArrow (returnType : Bool) : Reading (Option Expr) := do
  match ← arrowAhead with
  | .no => return none
  | .maybe => ambiguousArrow go returnType
  | .yes =>
    let (async, _) ← arrowHead go
    return some (← arrowBody go async returnType)

/-- An asynchronous arrow function of a bare parameter. -/
def bareAsyncArrow (returnType : Bool) : Reading (Option Expr) := do
  if !(← seesWord "async") then return none
  let applies ← afterwards do
    if (← isFresh) || !(← seesName) then return false
    bump
    sees "=>"
  if !applies then return none
  bump
  inFunction true false do
    let _ ← name
  return some (← arrowBody go true returnType)

end Commentary.Script.Grammar
