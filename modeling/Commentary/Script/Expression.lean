import Commentary.Script.Arrow
import Commentary.Script.Element

/-! Expressions. -/
namespace Commentary.Script.Grammar

open Reading

variable (go : Grammar)

/-- How tightly an operator between two operands binds. -/
def operatorLevel (typescript membership : Bool) : Lexeme → Option Nat
  | .mark "??" => some 1
  | .mark "||" => some 2
  | .mark "&&" => some 3
  | .mark "|" => some 4
  | .mark "^" => some 5
  | .mark "&" => some 6
  | .mark m =>
    if ["==", "!=", "===", "!=="].contains m then some 7
    else if ["<", ">", "<=", ">="].contains m then some 8
    else if ["<<", ">>", ">>>"].contains m then some 9
    else if ["+", "-"].contains m then some 10
    else if ["*", "/", "%"].contains m then some 11
    else if m == "**" then some 12
    else none
  | .word "instanceof" false => some 8
  | .word "in" false => if membership then some 8 else none
  | .word w false =>
    if typescript && (w == "as" || w == "satisfies") then some 8 else none
  | _ => none

def assignmentMarks : List String :=
  ["=", "+=", "-=", "*=", "/=", "%=", "**=", "<<=", ">>=", ">>>=", "&=", "|=", "^=", "&&=",
   "||=", "??="]

def operatorHere : Reading (Option Nat) := do
  let s ← read
  return operatorLevel s.dialect.typescript s.membership (← lexeme)

def startsExpression : Reading Bool := do
  match ← lexeme with
  | .number | .quoted _ | .template _ _ | .privateName _ => return true
  | .word w _ =>
    return !reserved.contains w || ["this", "null", "true", "false", "function", "class", "new",
      "super", "typeof", "void", "delete", "import"].contains w
  | .mark m =>
    return ["(", "[", curly, "+", "-", "~", "!", "++", "--", "<", "/", "/=", "@"].contains m
  | _ => return false

/-- Type arguments inside an expression count only if what follows cannot be an operand. -/
def instantiation : Reading Bool := do
  let found ← attempt do
    typeArguments go
    match ← lexeme with
    | .template _ _ => return
    | .mark m =>
      if m == "(" then return
      if ["<", ">", "+", "-"].contains m then unexpected
    | _ => pure ()
    if (← isFresh) || (← operatorHere).isSome || !(← startsExpression) then return
    unexpected
  return found.isSome

def arguments : Reading Unit := do
  expect "("
  let _ ← listed ")" do
    let _ ← eat "..."
    value go
  expect ")"

def computed : Reading Unit := do
  expect "["
  embedded go
  expect "]"

/-- What follows a question mark and a dot. -/
def optionalStep (calls : Bool) : Reading Unit := do
  match ← lexeme with
  | .word _ _ | .privateName _ => bump
  | .mark "[" => computed go
  | .mark "(" => if calls then arguments go else unexpected
  | .mark "<" =>
    if !(← typescript) then unexpected
    typeArguments go
    arguments go
  | _ => unexpected

/-- Accesses and calls behind an operand, and whether one of them was optional. Calls are left
alone where they belong to something before the operand. -/
def accessSteps (calls : Bool) (e : Expr) : Reading (Expr × Bool) :=
  iterate (fun (e, chained) => do
    let plain : Expr := { target := if chained then .none else .simple }
    match ← lexeme with
    | .mark "." =>
      bump
      match ← lexeme with
      | .word _ _ | .privateName _ => bump
      | _ => unexpected
      return .inl (plain, chained)
    | .mark "?." =>
      bump
      optionalStep go calls
      return .inl ({}, true)
    | .mark "[" =>
      if (← read).decorating then return .inr (e, chained)
      computed go
      return .inl (plain, chained)
    | .mark "(" =>
      if !calls then return .inr (e, chained)
      arguments go
      return .inl ({}, chained)
    | .mark "!" =>
      if !(← typescript) || (← isFresh) then return .inr (e, chained)
      bump
      return .inl ({ target := if e.target = .simple then .simple else .none }, chained)
    | .template _ _ =>
      reportIf chained
      template true (embedded go)
      return .inl ({}, chained)
    | .mark m =>
      if ← pure (m == "<" || m == "<<") <&&> typescript <&&> instantiation go then
        return .inl ({}, chained)
      return .inr (e, chained)
    | _ => return .inr (e, chained)) (e, false)

def grouped : Reading Expr := do
  expect "("
  let e ← withReader ({ · with membership := true, decorating := false }) (go .expression)
  expect ")"
  return { target := if e.target = .simple then .simple else .none }

def regexLiteral : Reading Expr := do
  advance fun c => c.reread regexLexeme
  bump
  return {}

def classExpression : Reading Expr := do
  decorators go
  let _ ← classFromKeyword go
  return {}

def importExpression : Reading Expr := do
  bump
  if ← eat "." then
    let w ← anyWord
    if w == "meta" then return {}
    if w != "source" && w != "defer" then unexpected
  expect "("
  let _ ← value go
  if ← eat "," then
    if !(← sees ")") then
      let _ ← value go
      let _ ← eat ","
  expect ")"
  return {}

def superExpression : Reading Expr := do
  bump
  if !(← sees ".") && !(← sees "[") && !(← sees "(") then unexpected
  return {}

/-- An operand, where a new object's class is itself an operand with accesses. -/
def operand (create : Reading Expr) : Reading Expr := do
  match ← lexeme with
  | .number => bump; return {}
  | .quoted _ => bump; return { shape := .quoted }
  | .template _ _ =>
    template false (embedded go)
    return {}
  | .word w _ =>
    if ["this", "null", "true", "false"].contains w then
      bump
      return {}
    if ← seesFunction then return ← functionExpression go
    if w == "class" then return ← classExpression go
    if w == "new" then return ← create
    if w == "super" then return ← superExpression
    if w == "import" then return ← importExpression go
    let n ← name
    return { shape := .identifier n, target := .simple }
  | .mark "[" => arrayLiteral go
  | .mark "(" => grouped go
  | .mark "/" => regexLiteral
  | .mark "/=" => regexLiteral
  | .mark "@" => classExpression go
  | .mark "<" =>
    if !(← read).dialect.jsx then unexpected
    bump
    go (.element false)
    return {}
  | .mark m => if m == curly then objectLiteral go else unexpected
  | _ => unexpected

def newMeta : Reading Expr := do
  expect "."
  expectWord "target"
  return {}

/-- The arguments of so many new objects, each one the class of the next. -/
def creationRest : Nat → Reading Unit
  | 0 => return
  | n + 1 => do
    if ← sees "(" then arguments go
    if n != 0 then
      let _ ← accessSteps go false {}
    creationRest n

/- The class of a new object ends before the first parenthesis. Classes of that kind nest, one
word after the other. -/
def creation : Reading Expr := do
  let depth ← iterate (fun n => do
    if (← seesWord "new") && !(← afterwards (sees ".")) then
      bump
      return .inl (n + 1)
    return .inr n) 0
  let base ← operand go (do bump; newMeta)
  let (_, chained) ← accessSteps go false base
  reportIf chained
  creationRest go depth
  return {}

/-- A new object, or the word that asks whether one is being made. -/
def newExpression : Reading Expr := do
  if ← afterwards (sees ".") then
    bump
    newMeta
  else creation go

def access : Reading Expr := do
  let base ← operand go (newExpression go)
  let (e, _) ← accessSteps go true base
  return e

/-- A type in front of or behind the expression it is asserted of. -/
def assertedType : Reading Unit := do
  if !(← eatWord "const") then go .type

def frontMarks : List String := ["+", "-", "~", "!"]
def frontWords : List String := ["delete", "typeof", "void"]

def updated : Reading Expr := do
  if (← sees "++") || (← sees "--") then
    bump
    let e ← go .unary
    retarget e false
    return {}
  let e ← go .access
  if ((← sees "++") || (← sees "--")) && !(← isFresh) then
    retarget e false
    bump
    return {}
  return e

def unary : Reading Expr := do
  match ← lexeme with
  | .mark "<" =>
    if (← read).dialect.jsx then
      bump
      go (.element false)
      return {}
    if !(← typescript) then unexpected
    bump
    assertedType go
    expect ">"
    let e ← go .unary
    return { target := if e.target = .simple then .simple else .none }
  | .mark m =>
    if !frontMarks.contains m then return ← updated go
    bump
    let _ ← go .unary
    return { shape := .operated }
  | .word w false =>
    if w == "await" then
      let awaits := (← read).awaits
      if awaits || (← operandFollows) then
        reportIf (!awaits)
        bump
        let _ ← withReader ({ · with awaits := true }) (go .unary)
        return { shape := .operated }
    if !frontWords.contains w then return ← updated go
    bump
    let _ ← go .unary
    return { shape := .operated }
  | _ => updated go

/-- The expression that two operands make. Missing values have defaults apart from other
choices, and a power has no bare operator in its base. -/
def combine (m : Lexeme) (left right : Expr) : Reading Expr := do
  match m with
  | .mark "??" =>
    let mixed := match left.shape, right.shape with
      | .alternative, _ => true
      | _, .alternative => true
      | _, _ => false
    reportIf mixed
    return { shape := .coalescing }
  | .mark "||" => return { shape := .alternative }
  | .mark "&&" => return { shape := .alternative }
  | .mark "**" =>
    match left.shape with
    | .operated => report
    | _ => pure ()
    return {}
  | _ => return {}

def binaryStep (level : Nat) (left : Expr) : Reading (Sum Expr Expr) := do
  if ← sees ">" then advance fun c => c.reread angleLexeme
  match ← operatorHere with
  | none => return .inr left
  | some n =>
    if n < level || (n == level && n != 12) then return .inr left
    let m ← lexeme
    if m = .word "as" false || m = .word "satisfies" false then
      if ← isFresh then return .inr left
      bump
      assertedType go
      return .inl { target := if left.target = .simple then .simple else .none }
    bump
    let right ← go (.binary n)
    return .inl (← combine m left right)

/-- Operands joined by operators that bind more tightly than this level. -/
def binary (level : Nat) : Reading Expr := do
  let left ← match ← lexeme with
    | .privateName _ => do
      if !(← read).membership then unexpected
      bump
      expectWord "in"
      let _ ← go (.binary 8)
      pure {}
    | _ => go .unary
  iterate (binaryStep go level) left

def conditionRest (returnType : Bool) (e : Expr) : Reading Expr := do
  if ← eat "?" then
    let _ ← withReader ({ · with membership := true }) (go (.assignment false))
    expect ":"
    let _ ← go (.assignment returnType)
    return {}
  return e

def yieldExpression : Reading Expr := do
  reportIf (!(← read).yields)
  bump
  if !(← isFresh) then
    let all ← eat "*"
    let t ← lexeme
    let ends := t = .finish || t = .word "in" false ||
      [";", "]", ":", ",", ")", uncurly].any fun m => t = .mark m
    if all || !ends then
      let _ ← go (.assignment true)
  return {}

def assignmentRest (returnType : Bool) (e : Expr) : Reading Expr := do
  match ← lexeme with
  | .mark m =>
    if !assignmentMarks.contains m then return ← conditionRest go returnType e
    let plain := m == "="
    retarget e plain
    bump
    let _ ← go (.assignment returnType)
    return { target := if plain then .defaulted else .none }
  | _ => conditionRest go returnType e

def assignment (returnType : Bool) : Reading Expr := do
  if (← seesWord "yield") && ((← read).yields || (← operandFollows)) then
    return ← yieldExpression go
  if let some e ← parenthesizedArrow go returnType then return e
  if let some e ← bareAsyncArrow go returnType then return e
  let e ← go (.binary 0)
  match e.shape with
  | .identifier _ =>
    if ← sees "=>" then arrowBody go false returnType
    else assignmentRest go returnType e
  | _ => assignmentRest go returnType e

/-- Expressions with commas between them. -/
def expression : Reading Expr := do
  let e ← go (.assignment true)
  if !(← sees ",") then return e
  iterate (fun _ => do
    if ← eat "," then
      let _ ← go (.assignment true)
      return .inl ()
    return .inr ()) ()
  return {}

end Commentary.Script.Grammar
