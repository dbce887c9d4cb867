import Commentary.Script.Cursor
import Commentary.Script.Dialect

/-! Reading a script token by token. A fault stops the reading; a reported fault does not, but
spoils the result. -/
namespace Commentary.Script

/-- What the grammar depends on besides the tokens. -/
structure Setting where
  dialect : Dialect
  /-- `in` is an operator here. -/
  membership : Bool := true
  yields : Bool := false
  awaits : Bool := false
  returns : Bool := true
  /-- Inside a decorator, where a bracket starts the next member. -/
  decorating : Bool := false
  ambient : Bool := false
  /-- A type here ends before `extends`. -/
  unconditional : Bool := false

abbrev Reading := ReaderT Setting (StateT Cursor (Except Fault))

namespace Reading

def curly : String := "\x7b"
def uncurly : String := "\x7d"

def token : Reading Token := do return (← get).token
def lexeme : Reading Lexeme := do return (← token).lexeme
def offset : Reading Nat := do return (← token).start
/-- The end of the token before. -/
def reached : Reading Nat := do return (← get).before
def isFresh : Reading Bool := do return (← token).fresh

/-- The token stands on the line of the one before it. -/
def isUnbroken : Reading Bool := do return !(← isFresh)
def typescript : Reading Bool := do return (← read).dialect.typescript

def unexpected {α : Type} : Reading α := do throw (.unexpected (← offset))
def report : Reading Unit := modify fun c => { c with faulty := true }
def reportIf (bad : Bool) : Reading Unit := if bad then report else pure ()

def advance (step : Cursor → Except Fault Cursor) : Reading Unit := do
  match step (← get) with
  | .ok c => set c
  | .error fault => throw fault

def bump : Reading Unit := advance Cursor.next

def sees (m : String) : Reading Bool := do return (← lexeme) = .mark m
def seesWord (w : String) : Reading Bool := do return (← lexeme) = .word w false

/-- The word at the cursor, whatever it means. -/
def word? : Reading (Option String) := do
  match ← lexeme with
  | .word w _ => return some w
  | _ => return none

def eat (m : String) : Reading Bool := do
  if ← sees m then bump; return true else return false

def eatWord (w : String) : Reading Bool := do
  if ← seesWord w then bump; return true else return false

def expect (m : String) : Reading Unit := do
  if !(← eat m) then unexpected

def expectWord (w : String) : Reading Unit := do
  if !(← eatWord w) then unexpected

/-- Looks ahead: the cursor stays, and the fallback answers for what cannot be read. -/
def foresee {α : Type} (fallback : α) (p : Reading α) : Reading α := fun setting c =>
  match p setting c with
  | .ok (a, _) => .ok (a, c)
  | .error _ => .ok (fallback, c)

def glance (p : Reading Bool) : Reading Bool := foresee false p

/-- Looks at the token after this one. -/
def afterwards (p : Reading Bool) : Reading Bool := glance (do bump; p)

/-- Reads if it can; otherwise the cursor stays. -/
def attempt {α : Type} (p : Reading α) : Reading (Option α) := fun setting c =>
  match p setting c with
  | .ok (a, d) => .ok (some a, d)
  | .error _ => .ok (none, c)

def iterateUpTo {σ : Type} (step : σ → Reading (Sum σ σ)) : Nat → σ → Reading σ
  | 0, _ => unexpected
  | n + 1, s => do
    match ← step s with
    | .inl s => iterateUpTo step n s
    | .inr s => return s

/-- Repeats a step until it answers on the right. Every step but the last moves the cursor, so
the remaining text bounds their number. -/
def iterate {σ : Type} (step : σ → Reading (Sum σ σ)) (s : σ) : Reading σ := do
  iterateUpTo step ((← get).rest.length + 2) s

/-- Items up to a condition, in order. -/
def manyUntil {α : Type} (stop : Reading Bool) (item : Reading α) : Reading (List α) := do
  let items ← iterate (fun items => do
    if ← stop then return .inr items
    return .inl ((← item) :: items)) []
  return items.reverse

/-- Items with commas between them up to a closing mark, which stays. A comma may stand before
the mark; the answer says whether one does. -/
def listed {α : Type} (close : String) (item : Reading α) : Reading (List α × Bool) := do
  let (items, trailing) ← iterate (fun (items, trailing) => do
    if ← sees close then return .inr (items, trailing)
    if !items.isEmpty && !trailing then
      expect ","
      return .inl (items, true)
    return .inl ((← item) :: items, false)) ([], false)
  return (items.reverse, trailing)

/-- A statement ends at a semicolon, before a closing brace, at the end or where a line ends. -/
def seesStatementEnd : Reading Bool := do
  let t ← token
  return t.fresh || t.lexeme = .finish || t.lexeme = .mark ";" || t.lexeme = .mark uncurly

def endStatement : Reading Unit := do
  if !(← eat ";") && !(← seesStatementEnd) then unexpected

def reserved : List String :=
  ["break", "case", "catch", "class", "const", "continue", "debugger", "default", "delete", "do",
   "else", "enum", "export", "extends", "false", "finally", "for", "function", "if", "import",
   "in", "instanceof", "new", "null", "return", "super", "switch", "this", "throw", "true", "try",
   "typeof", "var", "void", "while", "with"]

def isName : Lexeme → Bool
  | .word w _ => !reserved.contains w
  | _ => false

def isWord : Lexeme → Bool
  | .word _ _ => true
  | _ => false

/-- A word that is not reserved. -/
def seesName : Reading Bool := do return isName (← lexeme)
def seesAnyWord : Reading Bool := do return isWord (← lexeme)

def seesQuoted : Reading Bool := do
  match ← lexeme with
  | .quoted _ => return true
  | _ => return false

def anyWord : Reading String := do
  match ← word? with
  | some w => bump; return w
  | none => unexpected

/- Inside an asynchronous function or a generator one more word is taken. -/
def name : Reading String := do
  match ← lexeme with
  | .word w _ =>
    if reserved.contains w then unexpected
    let s ← read
    reportIf ((s.awaits && w == "await") || (s.yields && w == "yield"))
    bump
    return w
  | _ => unexpected

def quotedText : Reading String := do
  match ← lexeme with
  | .quoted value => bump; return value
  | _ => unexpected

/-- The next token is a word or literal on the same line. -/
def operandFollows : Reading Bool := afterwards do
  match (← token).lexeme with
  | .word _ _ | .number | .quoted _ => return !(← isFresh)
  | _ => return false

end Reading

end Commentary.Script
