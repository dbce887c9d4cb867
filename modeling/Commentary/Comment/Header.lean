import Commentary.Comment.Union
import Commentary.Text.Alphanumeric
import Commentary.Record

/-! Headers of parameters and results: a type in braces, a name that may be bracketed together
with a default, and the start of a description. -/
namespace Commentary.Comment

/-- A header that cannot be read. It spoils the whole comment. -/
structure Malformed where
  tag : String
  header : String
deriving Repr, DecidableEq

def Malformed.message (m : Malformed) : String :=
  "invalid @" ++ m.tag ++ ": " ++ m.header

/-- The text up to the bracket that closes one already opened, and what follows it. `depth`
counts the brackets opened since. -/
def spanBalanced (opening closing : Char) (depth : Nat) : List Char → Option (List Char × List Char)
  | [] => none
  | c :: rest =>
    if c = opening then
      (spanBalanced opening closing (depth + 1) rest).map fun p => (c :: p.1, p.2)
    else if c = closing then
      match depth with
      | 0 => some ([], rest)
      | n + 1 => (spanBalanced opening closing n rest).map fun p => (c :: p.1, p.2)
    else (spanBalanced opening closing depth rest).map fun p => (c :: p.1, p.2)

def isNameChar (c : Char) : Bool :=
  Text.isAlphanumeric c || c == '_' || c == '$' || c == '.'

/-- The types in braces at the start of a text, and what follows them. Nothing comes back for
braces that are never closed or hold nothing. -/
def readTypes (text : List Char) : Option (List String × List Char) :=
  match text with
  | '{' :: rest =>
    match spanBalanced '{' '}' 0 rest with
    | none => none
    | some (inner, rest) =>
      if Text.isBlankLine inner then none
      else some (splitUnion (Text.trim inner), Text.trimStart rest)
  | _ => some ([], text)

/-- A bracketed name, with the default behind its first equals sign. -/
def readOptional (inner : List Char) : Option Param :=
  let name := inner.takeWhile (· != '=')
  let default := (inner.dropWhile (· != '=')).drop 1
  (Text.nonBlank name).map fun name =>
    { name := name, optional := true, default := Text.nonBlank default }

/-- The name at the start of a text, and what follows it. A word with other characters than
those of a name is no name but description. -/
def readName (text : List Char) : Option (Param × List Char) :=
  match text with
  | '[' :: rest =>
    match spanBalanced '[' ']' 0 rest with
    | none => none
    | some (inner, rest) => (readOptional inner).map fun p => (p, Text.trimStart rest)
  | _ =>
    let word := text.takeWhile fun c => !Text.isBlank c
    if !word.isEmpty && word.all isNameChar then
      some ({ name := String.ofList word }, Text.trimStart (text.drop word.length))
    else some ({}, text)

/-- A description without the dash that may lead it. -/
def undash (text : List Char) : List Char :=
  match text with
  | '-' :: rest =>
    if rest.isEmpty || rest.head?.any Text.isBlank then Text.trim rest else Text.trim text
  | _ => Text.trim text

/-- A header without its tag: what it says, and the first line of the description. -/
def readHeader? (payload : List Char) (named : Bool) : Option (Param × List Char) :=
  match readTypes (Text.trimStart payload) with
  | none => none
  | some (types, rest) =>
    if named then
      (readName rest).map fun p => ({ p.1 with types := types }, undash p.2)
    else some ({ types := types }, undash rest)

def readHeader (tag : String) (payload : List Char) (named : Bool) :
    Except Malformed (Param × List Char) :=
  match readHeader? payload named with
  | some header => .ok header
  | none => .error ⟨tag, String.ofList (Text.trim payload)⟩

end Commentary.Comment
