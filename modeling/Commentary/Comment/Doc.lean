import Commentary.Comment.Example
import Commentary.Comment.Header
import Commentary.Comment.Tag

/-! What a doc comment itself says. A tag opens a block, other lines continue the open block
or start a description, and every tag closes the block before it. -/
namespace Commentary

structure Doc where
  kind : Kind := .block
  name : Option String := none
  label : Option String := none
  desc : Option String := none
  params : List Param := []
  returns : Option Param := none
  examples : List String := []
deriving Repr, DecidableEq, Inhabited

namespace Doc

/-- Two texts one below the other, if both are there. -/
def stack : Option String → Option String → Option String
  | some a, some b => some (a ++ "\n" ++ b)
  | a, b => a.or b

/-- A later block about the same thing adds what the first one leaves open. -/
def fold (first again : Param) : Param :=
  { first with
    types := if first.types.isEmpty then again.types else first.types
    optional := first.optional || again.optional
    default := first.default.or again.default
    desc := stack first.desc again.desc }

/-- A block that is still open, with its lines newest first. -/
inductive Block where
  | description (lines : List (List Char))
  | parameter (item : Param) (lines : List (List Char))
  | result (item : Param) (lines : List (List Char))
  | sample (lines : List (List Char))
  | ignored
deriving Repr, DecidableEq

def Block.push (line : List Char) : Block → Block
  | .description lines => .description (line :: lines)
  | .parameter item lines => .parameter item (line :: lines)
  | .result item lines => .result item (line :: lines)
  | .sample lines => .sample (line :: lines)
  | .ignored => .ignored

def addParam (doc : Doc) (item : Param) : Doc :=
  { doc with params :=
      (Param.updateNamed item.name (fold · item) doc.params).getD (doc.params ++ [item]) }

def addResult (doc : Doc) (item : Param) : Doc :=
  { doc with returns := some (match doc.returns with
      | some first => fold first item
      | none => item) }

/-- Closes a block: its content becomes part of the documentation. -/
def close (doc : Doc) : Block → Doc
  | .description lines => { doc with desc := stack doc.desc (Comment.content lines.reverse) }
  | .parameter item lines => doc.addParam { item with desc := Comment.content lines.reverse }
  | .result item lines => doc.addResult { item with desc := Comment.content lines.reverse }
  | .sample lines =>
    { doc with examples := doc.examples ++ (Comment.renderExample lines.reverse).toList }
  | .ignored => doc

/-- Closes the open block, if there is one. -/
def flush (doc : Doc) (block : Option Block) : Doc :=
  match block with
  | some b => doc.close b
  | none => doc

/-- What a tag changes at once, and the block it opens. -/
def openTag (doc : Doc) (word : String) (payload : List Char) :
    Except Comment.Malformed (Doc × Option Block) :=
  match Comment.Tag.ofWord word with
  | .description => .ok (doc, some (.description [Text.trim payload]))
  | .parameter =>
    (Comment.readHeader word payload true).map fun h => (doc, some (.parameter h.1 [h.2]))
  | .result =>
    (Comment.readHeader word payload false).map fun h => (doc, some (.result h.1 [h.2]))
  | .sample => .ok (doc, some (.sample [Text.trim payload]))
  | .name => .ok ({ doc with name := Text.nonBlank payload }, none)
  | .label => .ok ({ doc with label := Text.nonBlank payload }, none)
  | .file => .ok ({ doc with kind := .file }, some (.description [Text.trim payload]))
  | .unknown => .ok (doc, some .ignored)

def step (state : Doc × Option Block) (line : List Char) :
    Except Comment.Malformed (Doc × Option Block) :=
  match Comment.splitTag line with
  | none => .ok (state.1, some ((state.2.getD (.description [])).push line))
  | some (word, payload) => (state.1.flush state.2).openTag word payload

/-- Reads the body of a doc comment. -/
def ofBody (body : String) : Except Comment.Malformed Doc := do
  let state ← (Comment.logicalLines body.toList).foldlM step ({}, none)
  return state.1.flush state.2

end Doc

end Commentary
