/-! Documentation records: what is known about one documented thing. -/
namespace Commentary

/-- Whether a record is about the whole file or about one declaration in it. -/
inductive Kind where
  | file
  | block
deriving Repr, DecidableEq, Inhabited

/-- A parameter or a result. -/
structure Param where
  name : String := ""
  /-- Alternatives of the type. A type taken from the source is one alternative. -/
  types : List String := []
  optional : Bool := false
  default : Option String := none
  desc : Option String := none
deriving Repr, DecidableEq, Inhabited

namespace Param

def withType (p : Param) (type : String) : Param :=
  { p with types := [type] }

/-- What has a default can be left out. -/
def withDefault (p : Param) (value : String) : Param :=
  { p with default := some value, optional := true }

def withDesc (p : Param) (desc : String) : Param :=
  { p with desc := some desc }

/-- Changes the first parameter of a name, if there is one. No name is the empty one. -/
def updateNamed (name : String) (f : Param → Param) : List Param → Option (List Param)
  | [] => none
  | p :: rest =>
    if p.name ≠ "" ∧ p.name = name then some (f p :: rest)
    else (updateNamed name f rest).map (p :: ·)

end Param

structure Record where
  kind : Kind := .block
  name : String := ""
  /-- A name to show instead of the own one. -/
  label : Option String := none
  desc : Option String := none
  params : List Param := []
  returns : Option Param := none
  examples : List String := []
deriving Repr, DecidableEq, Inhabited

namespace Record

def displayName (r : Record) : String :=
  r.label.getD r.name

def isFile (r : Record) : Bool :=
  r.kind = .file

end Record

/-- What is known before any comment is read. -/
structure Seed where
  name : Option String := none
  params : List Param := []
  returns : Option Param := none
deriving Repr, DecidableEq, Inhabited

def Seed.named (name : String) : Seed :=
  { name := some name }

end Commentary
