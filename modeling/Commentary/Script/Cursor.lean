import Commentary.Script.Comment
import Commentary.Script.Lexeme

/-! A place in a script: the token there, the text behind it and the comments before it. -/
namespace Commentary.Script

structure Token where
  lexeme : Lexeme
  start : Nat
  stop : Nat
  /-- A line ends between the token before and this one. -/
  fresh : Bool

inductive Fault where
  /-- No token starts here, or the one that does is never closed. -/
  | lexical (offset : Nat)
  | unexpected (offset : Nat)
deriving Repr, DecidableEq

def Fault.message : Fault → String
  | .lexical offset => "no token can be read at offset " ++ toString offset
  | .unexpected offset => "unexpected token at offset " ++ toString offset

/-- What lies between two tokens is plain space or the inside of a comment. Characters of a
comment are collected newest first. -/
inductive Region where
  | between
  | line (start : Nat) (taken : List Char)
  | block (start : Nat) (taken : List Char)

structure Gap where
  offset : Nat
  fresh : Bool
  trivia : Trivia
  rest : List Char

/-- Passes over space and comments up to the next token. -/
def skim (offset : Nat) (fresh : Bool) (trivia : Trivia) : Region → List Char → Except Fault Gap
  | .between, [] => .ok ⟨offset, fresh, trivia, []⟩
  | .line start taken, [] =>
    let comment : Comment := ⟨false, String.ofList taken.reverse, start, offset, none⟩
    .ok ⟨offset, fresh, trivia.addLine comment, []⟩
  | .block start _, [] => .error (.lexical start)
  | .between, c :: rest =>
    if c == '\n' || c == '\r' then skim (offset + 1) true trivia.endLine .between rest
    else if isLineEnd c then skim (offset + c.utf8Size) true trivia .between rest
    else if isSpace c then skim (offset + c.utf8Size) fresh trivia .between rest
    else if c != '/' then .ok ⟨offset, fresh, trivia, c :: rest⟩
    else match rest with
      | '/' :: more => skim (offset + 2) fresh trivia (.line offset []) more
      | '*' :: more => skim (offset + 2) fresh trivia (.block offset []) more
      | _ => .ok ⟨offset, fresh, trivia, c :: rest⟩
  | .line start taken, c :: rest =>
    if isLineEnd c then
      let comment := ⟨false, String.ofList taken.reverse, start, offset, none⟩
      skim (offset + c.utf8Size) true (trivia.addLine comment) .between rest
    else skim (offset + c.utf8Size) fresh trivia (.line start (c :: taken)) rest
  | .block start taken, '*' :: '/' :: rest =>
    let comment := ⟨true, String.ofList taken.reverse, start, offset + 2, none⟩
    skim (offset + 2) fresh (trivia.addBlock comment) .between rest
  | .block start taken, c :: rest =>
    skim (offset + c.utf8Size) (fresh || isLineEnd c) trivia (.block start (c :: taken)) rest

structure Cursor where
  token : Token
  /-- The source from the token on, and from its end on. -/
  text : List Char
  rest : List Char
  /-- The end of the token before. -/
  before : Nat
  trivia : Trivia
  /-- A fault was met that reading could go past. -/
  faulty : Bool := false
  /-- Shorthand defaults that only a pattern may hold, not yet part of one. -/
  covers : List Nat := []

namespace Cursor

def settle (c : Cursor) (gap : Gap) (piece : Option (Lexeme × List Char × List Char)) :
    Except Fault Cursor :=
  match piece with
  | none => .error (.lexical gap.offset)
  | some (lexeme, taken, rest) =>
    .ok { c with
      token := ⟨lexeme, gap.offset, gap.offset + byteLength taken, gap.fresh⟩
      text := gap.rest
      rest := rest
      trivia := gap.trivia.meet gap.offset (lexeme = .mark "=" || lexeme = .mark "(") }

/-- Moves to the next token. -/
def next (c : Cursor) : Except Fault Cursor := do
  let gap ← skim c.token.stop false c.trivia .between c.rest
  { c with before := c.token.stop }.settle gap (scanToken gap.rest)

/-- Reads the token at the cursor again, as something else. -/
def reread (c : Cursor) (scan : List Char → Option (Lexeme × List Char × List Char)) :
    Except Fault Cursor :=
  c.settle ⟨c.token.start, c.token.fresh, c.trivia, c.text⟩ (scan c.text)

/-- Moves on with a scanner that takes space and comments for text. -/
def nextRaw (c : Cursor) (scan : List Char → Option (Lexeme × List Char × List Char)) :
    Except Fault Cursor :=
  { c with before := c.token.stop }.settle ⟨c.token.stop, false, c.trivia, c.rest⟩ (scan c.rest)

/-- The first token. A line that starts with a number sign and an exclamation mark is no part
of the script if it is the first one. -/
def ofSource (source : List Char) : Except Fault Cursor := do
  let mark := match source with
    | c :: _ => if c.toNat == 0xFEFF then [c] else []
    | [] => []
  let body := source.drop mark.length
  let line := match body with
    | '#' :: '!' :: _ => body.takeWhile fun c => !isLineEnd c
    | _ => []
  let trivia : Trivia := { lineEnded := line.isEmpty }
  let head := byteLength (mark ++ line)
  let rest := body.drop line.length
  let gap ← skim head line.isEmpty trivia .between rest
  let start : Cursor := ⟨⟨.finish, head, head, true⟩, rest, rest, 0, trivia, false, []⟩
  start.settle gap (scanToken gap.rest)

end Cursor

/-- A regular expression, read where a slash starts one. -/
def regexLexeme (text : List Char) : Option (Lexeme × List Char × List Char) :=
  match text with
  | '/' :: rest => do
    let (body, left) ← spanRegex false rest
    let (flags, left) := left.span continuesWord
    if soundFlags flags then return (.regex, '/' :: body ++ '/' :: flags, left) else failure
  | _ => none

/-- The template piece after a substitution, read where a brace closes the substitution. -/
def templateLexeme (text : List Char) : Option (Lexeme × List Char × List Char) :=
  match text with
  | c :: rest => spanTemplatePiece c rest
  | [] => none

/-- A closing angle joined with what follows it. -/
def angleLexeme (text : List Char) : Option (Lexeme × List Char × List Char) :=
  spanMark [">>>=", ">>>", ">>=", ">>", ">=", ">"] text

/-- A single opening angle, even where two stand together. -/
def openingLexeme (text : List Char) : Option (Lexeme × List Char × List Char) :=
  spanMark ["<"] text

/-- A name of an element or attribute, which may hold hyphens. -/
def tagLexeme (text : List Char) : Option (Lexeme × List Char × List Char) := do
  let name ← spanName (· == '-') true none text
  if name.value.isEmpty then failure
  return (.word (String.ofList name.value) name.escaped, name.taken, name.rest)

def childLexeme (text : List Char) : Option (Lexeme × List Char × List Char) :=
  match text with
  | [] => some (.finish, [], [])
  | '<' :: rest => some (.mark "<", ['<'], rest)
  | '{' :: rest => some (.mark "\x7b", ['{'], rest)
  | _ =>
    let p := text.span fun c => c != '<' && c != '{' && c != '>' && c != '}'
    if p.1.isEmpty then none else some (.text, p.1, p.2)

/-- A quoted attribute value, which has no escapes and may span lines. -/
def attributeLexeme (text : List Char) : Option (Lexeme × List Char × List Char) :=
  match text with
  | q :: rest =>
    let p := rest.span (· != q)
    if (q == '"' || q == quoteMark) && !p.2.isEmpty then
      some (.quoted (String.ofList p.1), q :: p.1 ++ [q], p.2.drop 1)
    else none
  | [] => none

end Commentary.Script
