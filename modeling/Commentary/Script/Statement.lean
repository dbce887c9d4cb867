import Commentary.Script.Module

/-! Statements. -/
namespace Commentary.Script.Grammar

open Reading

variable (go : Grammar)

def condition : Reading Unit := do
  expect "("
  let _ ← go .expression
  expect ")"

def body : Reading Unit := do
  let _ ← go (.statement .single)

def ifStatement : Reading Unit := do
  bump
  condition go
  body go
  if ← eatWord "else" then body go

def doStatement : Reading Unit := do
  bump
  body go
  expectWord "while"
  condition go
  let _ ← eat ";"

def headedStatement : Reading Unit := do
  bump
  condition go
  body go

def jumpStatement : Reading Unit := do
  bump
  if !(← seesStatementEnd) then
    let _ ← name
  endStatement

def returnStatement : Reading Unit := do
  bump
  reportIf (!(← read).returns)
  if !(← seesStatementEnd) then
    let _ ← go .expression
  endStatement

def throwStatement : Reading Unit := do
  bump
  reportIf (← isFresh)
  let _ ← go .expression
  endStatement

def catchClause : Reading Unit := do
  if ← eat "(" then
    let _ ← go .pattern
    let _ ← typeNote go
    expect ")"
  statements go

def tryStatement : Reading Unit := do
  bump
  statements go
  let caught ← eatWord "catch"
  if caught then catchClause go
  let finished ← eatWord "finally"
  if finished then statements go
  reportIf (!caught && !finished)

def switchCase : Reading Unit := do
  if !(← eatWord "default") then
    expectWord "case"
    let _ ← go .expression
  expect ":"
  let _ ← manyUntil (return (← sees uncurly) || (← seesWord "case") || (← seesWord "default"))
    (go (.statement .list))

def switchStatement : Reading Unit := do
  bump
  condition go
  expect curly
  let _ ← manyUntil (sees uncurly) (switchCase go)
  expect uncurly

/-- `using` declares if a name follows it on its line. -/
def seesUsing : Reading Bool := do
  if !(← seesWord "using") then return false
  afterwards do return (← seesName) && !(← isFresh)

def seesAwaitUsing : Reading Bool := do
  if !(← seesWord "await") then return false
  afterwards do
    if ← isFresh then return false
    seesUsing

/- `let` is a name before an operator, an access, a call or the end of a statement. -/
def seesLet (place : Place) : Reading Bool := do
  if !(← seesWord "let") then return false
  afterwards do
    match ← lexeme with
    | .word w _ => return w != "in" && w != "instanceof" && place = .list
    | .mark m => return m == "[" || (m == curly && place = .list)
    | _ => return false

def loopRest : Reading Unit := do
  expect ";"
  if !(← sees ";") then
    let _ ← go .expression
  expect ";"
  if !(← sees ")") then
    let _ ← go .expression

/-- The head of a loop behind what it declares or computes first. -/
def loopHead (declared : Bool) (e : Expr) : Reading Unit := do
  if ← seesWord "of" then
    if !declared then retarget e true
    bump
    let _ ← go (.assignment true)
  else if ← seesWord "in" then
    if !declared then retarget e true
    bump
    let _ ← go .expression
  else loopRest go

def seesLoopLet : Reading Bool := do
  if !(← seesWord "let") then return false
  afterwards do
    match ← lexeme with
    | .word w _ => return w != "in"
    | .mark m => return m == "[" || m == curly
    | _ => return false

def seesLoopUsing : Reading Bool := do
  if !(← seesUsing) then return false
  return !(← afterwards (seesWord "of"))

def forStatement : Reading Unit := do
  bump
  if ← seesWord "await" then
    reportIf (!(← read).awaits)
    bump
  expect "("
  if ← sees ";" then loopRest go
  else
    let awaited ← seesAwaitUsing
    if awaited then bump
    let declares := (← seesWord "var") || (← seesWord "const") || (← seesLoopLet) ||
      (← seesLoopUsing)
    if declares then
      bump
      let _ ← withReader ({ · with membership := false }) (declarators go false true)
      loopHead go true {}
    else
      let e ← withReader ({ · with membership := false }) (go .expression)
      loopHead go false e
  expect ")"
  body go

/- Nothing but a bare name can be a label. -/
def expressionStatement : Reading Form := do
  let e ← go .expression
  match e.shape with
  | .identifier _ =>
    if ← eat ":" then
      let _ ← go (.statement .single)
    else endStatement
    return .other
  | .quoted =>
    endStatement
    return .text
  | _ =>
    endStatement
    return .other

def plain (p : Reading Unit) : Reading (Form × List String) := do
  p
  return (.other, [])

/-- A class, or an export of one, behind its decorators. -/
def decoratedStatement : Reading (Nat × Form × List String) := do
  let start ← offset
  decorators go
  if ← seesWord "export" then
    let start ← offset
    bump
    return (start, ← exportRest go)
  let (d, _) ← modifiedDeclaration go
  return (start, .declaration d, [])

/-- A declaration that cannot be the body of another statement. -/
def lexical (place : Place) (p : Reading (Declaration × List String)) :
    Reading (Form × List String) := do
  reportIf (place != .list)
  return (.declaration (← p).1, [])

def wordStatement (place : Place) (w : String) : Reading (Form × List String) := do
  match w with
  | "if" => plain (ifStatement go)
  | "do" => plain (doStatement go)
  | "while" => plain (headedStatement go)
  | "with" => plain (headedStatement go)
  | "for" => plain (forStatement go)
  | "continue" => plain jumpStatement
  | "break" => plain jumpStatement
  | "switch" => plain (switchStatement go)
  | "throw" => plain (throwStatement go)
  | "try" => plain (tryStatement go)
  | "debugger" => plain do bump; endStatement
  | "return" => plain (returnStatement go)
  | "class" => lexical place (declaration go)
  | "export" =>
    bump
    exportRest go
  | "var" => return (.declaration (← declaration go).1, [])
  | "const" => lexical place (declaration go)
  | _ =>
    if ← seesFunction then
      reportIf (place != .list && !(← seesWord "function"))
      return (.declaration (← declaration go).1, [])
    if ← seesLet place then return (.declaration (← declaration go).1, [])
    if (← seesUsing) || (← seesAwaitUsing) then
      if ← eatWord "await" then reportIf (!(← read).awaits)
      bump
      return ← lexical place (bindings go true)
    if w == "import" && !(← afterwards do return (← sees "(") || (← sees ".")) then
      return (← importStatement, [])
    if ← seesTypedDeclaration then return (.declaration (← modifiedDeclaration go).1, [])
    return (← expressionStatement go, [])

def statementForm (place : Place) : Reading (Nat × Form × List String) := do
  let start ← offset
  match ← lexeme with
  | .mark ";" =>
    bump
    return (start, .other, [])
  | .mark "@" => decoratedStatement go
  | .mark m =>
    if m == curly then return (start, ← plain (statements go))
    return (start, ← expressionStatement go, [])
  | .word w false => return (start, ← wordStatement go place w)
  | _ => return (start, ← expressionStatement go, [])

def statement (place : Place) : Reading Statement := do
  let (start, form, exported) ← statementForm go place
  return ⟨⟨start, ← reached⟩, form, exported⟩

end Commentary.Script.Grammar
