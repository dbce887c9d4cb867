import Commentary.Script.Statement

/-! Whole scripts. -/
namespace Commentary.Script

/-- Directives are counted and kept apart from the statements. -/
structure Program where
  directives : Nat
  statements : List Statement
  comments : List Comment
  /-- Something is wrong with the script that did not keep it from being read. -/
  faulty : Bool
deriving Repr

/- The grammar refers to itself. Each reference uses up one step, and between two tokens there
are only so many of them. -/
def grammar : Nat → Grammar
  | 0, _ => Reading.unexpected
  | n + 1, .expression => Grammar.expression (grammar n)
  | n + 1, .assignment returnType => Grammar.assignment (grammar n) returnType
  | n + 1, .binary level => Grammar.binary (grammar n) level
  | n + 1, .unary => Grammar.unary (grammar n)
  | n + 1, .access => Grammar.access (grammar n)
  | n + 1, .type => Grammar.typeExpr (grammar n)
  | n + 1, .pattern => Grammar.pattern (grammar n)
  | n + 1, .parameters owner => Grammar.parameters (grammar n) owner
  | n + 1, .statement place => Grammar.statement (grammar n) place
  | n + 1, .element child => Grammar.element (grammar n) child
  | n + 1, .classBody => Grammar.classBody (grammar n)

def hasDuplicate : List String → Bool
  | [] => false
  | n :: rest => rest.contains n || hasDuplicate rest

def isDirective (s : Statement) : Bool := s.form = .text

/-- A string literal is a directive as long as only directives stand before it. -/
def Program.ofStatements (dialect : Dialect) (list : List Statement) (c : Cursor) : Program :=
  let statements := list.dropWhile isDirective
  { directives := (list.takeWhile isDirective).length
    statements := statements
    comments := c.trivia.comments
    faulty := c.faulty || !c.covers.isEmpty ||
      (!dialect.typescript && hasDuplicate (statements.flatMap Statement.exported)) }

def Program.ofSource (dialect : Dialect) (source : String) : Except Fault Program := do
  let text := source.toList
  let go := grammar (16 * (text.length + 4))
  let list : Reading (List Statement) :=
    Reading.manyUntil (return (← Reading.lexeme) = .finish) (go (.statement .list))
  let start ← Cursor.ofSource text
  let (list, c) ← (list { dialect := dialect, ambient := dialect.definition }).run start
  return .ofStatements dialect list c

/-- Why a text is not taken for a script: what is wrong with it, or that reading it was given
up. -/
inductive Rejection where
  | invalid (faults : List String)
  | aborted (cause : Option String)
deriving Repr, DecidableEq

namespace Rejection

def reason : Rejection → String
  | .invalid faults => "; ".intercalate faults
  | .aborted cause => cause.getD "aborted"

def message : Rejection → String
  | .invalid faults => "Syntax error: " ++ "; ".intercalate faults
  | .aborted none => "Parser aborted"
  | .aborted (some cause) => "Parser aborted - " ++ cause

end Rejection

/-- Reads a script. Faults that do not keep it from being read can be tolerated. -/
def read (dialect : Dialect) (tolerant : Bool) (source : String) : Except Rejection Program :=
  match Program.ofSource dialect source with
  | .error fault => .error (.invalid [fault.message])
  | .ok program =>
    if program.faulty && !tolerant then .error (.invalid ["invalid declaration"]) else .ok program

/-- The text between two byte offsets. -/
def slice (source : List Char) (span : Span) : List Char :=
  go 0 source
where
  go (offset : Nat) : List Char → List Char
    | [] => []
    | c :: rest =>
      if span.stop ≤ offset then []
      else if span.start ≤ offset then c :: go (offset + c.utf8Size) rest
      else go (offset + c.utf8Size) rest

end Commentary.Script
