import Commentary.Digest
import Commentary.Locale
import Commentary.Page.Code
import Commentary.Record
import Commentary.Text.Lines
import Commentary.Text.Trim

/-! The page of a module: its records as Markdown. -/
namespace Commentary

/-- A page with the digest of its content. -/
structure Page where
  content : String
  fingerprint : String
deriving Repr, DecidableEq

namespace Page

def paragraphs (sections : List String) : String :=
  "\n\n".intercalate sections

/-- The line of a parameter or result: its name, its types, and what it does when left out. -/
def entryLine (locale : Locale) (p : Param) : String :=
  let types := escapeAngles (" | ".intercalate p.types)
  " ".intercalate (
    (if p.name.isEmpty then [] else [code p.name]) ++
    (if types.isEmpty then [] else ["*" ++ types ++ "*"]) ++
    (if p.optional then ["(" ++ locale.optional ++ ")"] else []) ++
    (p.default.map fun d => locale.defaultAs ++ " " ++ code d).toList)

/- Four spaces keep a description inside its list item. -/
def indent (row : List Char) : String :=
  if row.isEmpty then "\n" else "\n    " ++ String.ofList row

def entryDesc (desc : Option String) : String :=
  match desc.bind fun d => Text.nonBlank d.toList with
  | some text => "\n" ++ String.join ((Text.lines text.toList).map indent)
  | none => ""

def entry (locale : Locale) (p : Param) : String :=
  "\n\n- " ++ entryLine locale p ++ entryDesc p.desc

def entries (locale : Locale) (title : String) (list : List Param) : String :=
  "#### " ++ title ++ String.join (list.map (entry locale))

def exampleText (text : String) : String :=
  "\n\n" ++ String.ofList (Text.trimEnd text.toList)

/-- The sections of a record. A file has no heading of its own. -/
def sections (locale : Locale) (r : Record) : List String :=
  (if r.isFile || r.displayName.isEmpty then [] else ["## " ++ r.displayName]) ++
  (r.desc.bind fun d => Text.nonBlank d.toList).toList ++
  (if r.params.isEmpty then [] else [entries locale locale.params r.params]) ++
  (r.returns.map fun p => entries locale locale.returns [p]).toList ++
  (if r.examples.isEmpty then []
    else ["#### " ++ locale.examples ++ String.join (r.examples.map exampleText)])

def block (locale : Locale) (r : Record) : String :=
  paragraphs (sections locale r)

/-- Files come first, then names in ascending order. -/
def precedes (a b : Record) : Bool :=
  if a.kind = b.kind then !decide (b.displayName < a.displayName) else a.isFile

def sorted (records : List Record) : List Record :=
  records.mergeSort precedes

/-- The alias of a leading file, or else the name of the module. -/
def title (module : String) (records : List Record) : String :=
  match records with
  | first :: _ => if first.isFile then first.label.getD module else module
  | [] => module

def text (locale : Locale) (module : String) (records : List Record) : String :=
  let items := sorted records
  paragraphs (("# " ++ title module items) ::
    (items.map (block locale)).filter fun text => !text.isEmpty) ++ "\n"

def fingerprintOf (content : String) : String :=
  Digest.ofText content

/-- Renders the records of a module. -/
def render (locale : Locale) (module : String) (records : List Record) : Page :=
  let content := text locale module records
  ⟨content, fingerprintOf content⟩

end Page

end Commentary
