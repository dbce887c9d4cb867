import Commentary.Diagnostic
import Commentary.Record.Merge
import Commentary.Script.Program

/-! The documentation of a source. Comments right before a statement, or before the declaration
it exports, document what the statement declares; comments outside every statement can only
document the file. -/
namespace Commentary

/-- What reading a source yields, piece by piece. -/
inductive Finding where
  | record (r : Record)
  | problem (d : Diagnostic)
deriving Repr, DecidableEq

namespace Finding

def record? : Finding → Option Record
  | .record r => some r
  | .problem _ => none

def problem? : Finding → Option Diagnostic
  | .record _ => none
  | .problem d => some d

/-- A record of a declaration does not concern the file; all else does. -/
def concernsFile : Finding → Bool
  | .record r => r.isFile
  | .problem _ => true

end Finding

structure Extraction where
  records : List Record := []
  diagnostics : List Diagnostic := []
deriving Repr, DecidableEq

namespace Extraction

def isEmpty (e : Extraction) : Bool :=
  e.records.isEmpty

def ofFindings (list : List Finding) : Extraction where
  records := list.filterMap Finding.record?
  diagnostics := list.filterMap Finding.problem?

/-- A source under its path. -/
structure Source where
  path : String
  text : String
deriving Repr, DecidableEq

namespace Source

open Script

def slice (s : Source) (span : Span) : String :=
  String.ofList (Script.slice s.text.toList span)

/-- The file itself is known by its name without the extension. -/
def seed (s : Source) : Seed :=
  .named ((Path.fileStem s.path).getD "")

def report (s : Source) (e : Error) : Finding :=
  .problem (.ofError s.path e)

/-- A parameter with a name. Others have no place in a list of parameters. -/
def param (s : Source) (p : Parameter) : Except String Param :=
  match p.name with
  | some name => .ok {
      name := name
      types := (p.type.map s.slice).toList
      optional := p.optional || p.default.isSome
      default := p.default.map s.slice }
  | none => .error ("destructured parameter `" ++ s.slice p.span ++ "`")

def result (s : Source) (type : Span) : Param :=
  ({} : Param).withType (s.slice type)

/-- What a declaration says about itself, or its name and why it says nothing. -/
def declared (s : Source) : Declaration → Except (String × String) Seed
  | .routine name sig =>
    match (sig.params ++ sig.rest.toList).mapM s.param with
    | .ok params => .ok {
        name := some (name.getD "")
        params := params
        returns := sig.returns.map s.result }
    | .error reason => .error (name.getD "", reason)
  | .bindings [some name] => .ok (.named name)
  | .bindings _ => .ok (.named "")
  | .named name => .ok (.named name)
  | .labelled label => .ok (.named (s.slice label))
  | .other => .ok (.named "")

/-- All that a comment says under a seed. -/
def told (s : Source) (seed : Seed) (c : Script.Comment) : List Finding :=
  match Record.ofComment c.block c.text seed with
  | .ok record => (record.map .record).toList
  | .error cause => [s.report (.malformed cause)]

/-- What a comment says about the file, if it speaks of the file at all. -/
def aboutFile (s : Source) (c : Script.Comment) : List Finding :=
  (s.told s.seed c).filter Finding.concernsFile

/-- What a comment says about a declaration. One that speaks of the file is read as such. -/
def aboutDeclaration (s : Source) (seed : Seed) (c : Script.Comment) : List Finding :=
  match Record.ofComment c.block c.text seed with
  | .ok (some r) => if r.isFile then s.told s.seed c else [.record r]
  | _ => s.told seed c

/-- The comments that lead to a statement, one anchor after the other. -/
def leading (comments : List Script.Comment) (st : Statement) : List Script.Comment :=
  st.anchors.flatMap fun a => comments.filter fun c => c.anchor == some a

def aboutStatement (s : Source) (documentUnsupported : Bool) (comments : List Script.Comment)
    (st : Statement) : List Finding :=
  let own := leading comments st
  match s.declared st.declaration with
  | .ok seed => own.flatMap (s.aboutDeclaration seed)
  | .error (name, reason) =>
    s.report (.unsupported s.path name reason) ::
      own.flatMap (if documentUnsupported then s.aboutDeclaration (.named name) else s.aboutFile)

/-- A comment that leads to no statement and lies in none. -/
def isFree (statements : List Statement) (c : Script.Comment) : Bool :=
  statements.all fun st =>
    !(st.anchors.any fun a => c.anchor == some a) &&
    !(st.span.start ≤ c.start && c.stop ≤ st.span.stop)

/-- In a script without statements every comment is about the file. -/
def findings (s : Source) (documentUnsupported : Bool) (p : Program) : List Finding :=
  if p.statements.isEmpty then p.comments.flatMap (s.told s.seed)
  else
    p.statements.flatMap (s.aboutStatement documentUnsupported p.comments) ++
    (p.comments.filter (isFree p.statements)).flatMap s.aboutFile

end Source

/-- Reads a source. One that is no script has no documentation. -/
def ofSource (documentUnsupported : Bool) (s : Source) : Extraction :=
  match Script.read (.ofPath s.path) false s.text with
  | .ok program => ofFindings (s.findings documentUnsupported program)
  | .error rejection => ofFindings [s.report (.syntaxError s.path rejection.reason)]

end Extraction

end Commentary
