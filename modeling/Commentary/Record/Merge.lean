import Commentary.Comment.Doc

/-! Merging what the source says with what a comment says. The source wins wherever it says
anything; only the comment describes. -/
namespace Commentary

def Param.merge (seed comment : Param) : Param where
  name := if seed.name = "" then comment.name else seed.name
  types := if seed.types.isEmpty then comment.types else seed.types
  optional := seed.optional || comment.optional
  default := seed.default.or comment.default
  desc := comment.desc.or seed.desc

namespace Doc

/-- Merges one parameter into the seeded ones, or appends it to the others. -/
def mergeParam (state : List Param × List Param) (item : Param) : List Param × List Param :=
  match Param.updateNamed item.name (·.merge item) state.1 with
  | some seeded => (seeded, state.2)
  | none => (state.1, state.2 ++ [item])

def mergeParams (seeded comment : List Param) : List Param :=
  let merged := comment.foldl mergeParam (seeded, [])
  merged.1 ++ merged.2

def mergeResult : Option Param → Option Param → Option Param
  | some seed, some comment => some (seed.merge comment)
  | seed, comment => seed.or comment

def merge (doc : Doc) (seed : Seed) : Record where
  kind := doc.kind
  name := (doc.name.or seed.name).getD ""
  label := doc.label
  desc := doc.desc
  params := mergeParams seed.params doc.params
  returns := mergeResult seed.returns doc.returns
  examples := doc.examples

end Doc

/-- A block comment whose text starts with a star documents something. -/
def isDocStyle (block : Bool) (text : String) : Bool :=
  block && text.toList.head? == some '*'

/-- The record of a comment, if it is a doc comment. -/
def Record.ofComment (block : Bool) (text : String) (seed : Seed) :
    Except Comment.Malformed (Option Record) :=
  if isDocStyle block text then
    (Doc.ofBody (String.ofList (text.toList.drop 1))).map fun doc => some (doc.merge seed)
  else .ok none

end Commentary
