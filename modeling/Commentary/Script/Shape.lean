import Commentary.Script.Reading

/-! What reading a script finds out about it. Statements keep what documentation needs of
them; expressions keep only what the grammar asks of them later. -/
namespace Commentary.Script

structure Span where
  start : Nat
  stop : Nat
deriving Repr, DecidableEq

/-- What an expression may become when an assignment follows it. -/
inductive Target where
  | none
  | simple
  | pattern
  /-- A target with a default value, which stands only inside a pattern. -/
  | defaulted
deriving DecidableEq

def Target.isElement : Target → Bool
  | .none => false
  | _ => true

inductive Shape where
  | identifier (name : String)
  | quoted
  /-- A conjunction or disjunction, which does not mix with a default for missing values. -/
  | alternative
  | coalescing
  /-- An operator in front of its operand, which cannot be the base of a power. -/
  | operated
  | other

structure Expr where
  shape : Shape := .other
  target : Target := .none
  /-- Shorthand defaults that are in order once the expression is read as a pattern. -/
  covers : List Nat := []

structure Pattern where
  /-- The name, unless the pattern takes a value apart. -/
  name : Option String
  /-- Every name the pattern binds. -/
  names : List String

structure Parameter where
  name : Option String
  span : Span
  optional : Bool := false
  type : Option Span := none
  default : Option Span := none
deriving Repr, DecidableEq

structure Signature where
  params : List Parameter
  rest : Option Parameter
  returns : Option Span := none
deriving Repr, DecidableEq

inductive Declaration where
  | routine (name : Option String) (signature : Signature)
  /-- The names bound, one entry for each declarator; a pattern has no name of its own. -/
  | bindings (names : List (Option String))
  | named (name : String)
  /-- Named by a piece of the source. -/
  | labelled (label : Span)
  | other
deriving Repr, DecidableEq

inductive Form where
  | declaration (it : Declaration)
  /-- An export with the declaration it holds, if it holds one, and where that starts. -/
  | exporting (inner : Option (Nat × Declaration))
  /-- A string literal and nothing else. -/
  | text
  | other
deriving Repr, DecidableEq

structure Statement where
  span : Span
  form : Form
  /-- The names under which the statement exports something. -/
  exported : List String := []
deriving Repr, DecidableEq

namespace Statement

/-- What a statement declares, itself or in what it exports. -/
def declaration (st : Statement) : Declaration :=
  match st.form with
  | .declaration it => it
  | .exporting (some (_, it)) => it
  | _ => .other

/-- Where comments about a statement lead: to its start, and to the start of what it exports. -/
def anchors (st : Statement) : List Nat :=
  match st.form with
  | .exporting (some (inner, _)) =>
    if inner = st.span.start then [st.span.start] else [st.span.start, inner]
  | _ => [st.span.start]

end Statement

/-- Where parameters stand: constructors may declare properties with theirs. -/
inductive Owner where
  | plain
  | constructor
deriving DecidableEq

/-- Where a statement stands. -/
inductive Place where
  | list
  /-- The body of another statement. -/
  | single
deriving DecidableEq

/-- The productions that refer back to earlier ones. -/
inductive Goal where
  | expression
  /-- An expression without commas; an arrow function in it may have a return type or not. -/
  | assignment (returnType : Bool)
  | binary (level : Nat)
  | unary
  /-- Accesses and calls. -/
  | access
  | type
  | pattern
  | parameters (owner : Owner)
  | statement (place : Place)
  /-- An element behind its opening angle, alone or as a child of another one. -/
  | element (child : Bool)
  | classBody

abbrev Goal.Value : Goal → Type
  | .expression => Expr
  | .assignment _ => Expr
  | .binary _ => Expr
  | .unary => Expr
  | .access => Expr
  | .type => Unit
  | .pattern => Pattern
  | .parameters _ => Signature
  | .statement _ => Statement
  | .element _ => Unit
  | .classBody => Unit

/-- A reader for every production. Each production is written over such a reader for its
parts. -/
abbrev Grammar := (goal : Goal) → Reading goal.Value

end Commentary.Script
