import Commentary.Toml.Scalar
import Commentary.Toml.Table

/-! Settings files in the TOML format. -/
namespace Commentary.Toml

open Text Text.Scan

def isBareKeyChar (c : Char) : Bool :=
  c.isAlphanum || c == '_' || c == '-'

def spaces : Scan Unit := do
  let _ ← takeWhile isSpace

def simpleKey : Scan String := do
  match ← peek with
  | some '"' => shortText '"'
  | some '\x27' => shortText '\x27'
  | _ =>
    let name ← takeWhile isBareKeyChar
    guard (!name.isEmpty)
    return String.ofList name

/-- A key with dots is a path of names. -/
def key : Scan (List String) :=
  sepBy (do spaces; simpleKey) (do spaces; eat ['.'])

/-- A comment goes on to the end of its line. -/
def comment : Scan Unit := do
  if ← eat ['#'] then
    let _ ← takeWhile isPlain

/-- What may stand between the elements of a list. -/
def interlude : Scan Unit := do
  let _ ← many do
    gap
    if (← peek) == some '#' then
      comment
      return some ()
    else return none

def element (value : Scan Value) : Scan (Option Value) := do
  interlude
  if ← eat [']'] then return none
  let v ← value
  interlude
  unless ← eat [','] do guard ((← peek) == some ']')
  return some v

def entry (value : Scan Value) : Scan (List String × Value) := do
  let path ← key
  spaces
  expect ['=']
  spaces
  return (path, ← value)

def insertAll (list : List (List String × Value)) : Option Entries :=
  list.foldlM (fun entries e => insertAt .header entries (.value e.2) e.1) []

def inlineTable (value : Scan Value) : Scan Value := do
  spaces
  if ← eat ['}'] then return .fields []
  let list ← sepBy (do
    let e ← entry value
    spaces
    return e) (eat [','])
  expect ['}']
  let entries ← (insertAll list : Option Entries)
  return .fields (fieldsOf entries)

/-- A value, with a reader for what stands in lists and tables, if there may be any. -/
def valueOver (inner : Option (Scan Value)) : Scan Value := do
  match ← peek, inner with
  | some '"', _ => return .text (← quotedText '"')
  | some '\x27', _ => return .text (← quotedText '\x27')
  | some '[', some value =>
    expect ['[']
    return .list (← many (element value))
  | some '{', some value =>
    expect ['{']
    inlineTable value
  | _, _ => scalar

/-- A value with at most so many lists and tables around each other. -/
def value : Nat → Scan Value
  | 0 => valueOver none
  | n + 1 => valueOver (some (value n))

inductive Line where
  | blank
  | table (path : List String)
  | element (path : List String)
  | entry (path : List String) (v : Value)

/-- How deep values nest at most. -/
def maxDepth : Nat := 79

def statement : Scan Line := do
  spaces
  match ← peek with
  | none | some '\n' | some '\r' | some '#' => return .blank
  | some '[' =>
    if ← eat ['[', '['] then
      let path ← key
      spaces
      expect [']', ']']
      return .element path
    else
      expect ['[']
      let path ← key
      spaces
      expect [']']
      return .table path
  | _ =>
    let (path, v) ← entry (value maxDepth)
    return .entry path v

def lineOf : Scan (Option Line) := do
  if (← get).isEmpty then return none
  let s ← statement
  spaces
  comment
  unless (← get).isEmpty do guard (← newline)
  return some s

def lines : Scan (List Line) := do
  let _ ← eat ['\uFEFF']
  many lineOf

/-- A file that is being read: all tables, and the path of the one that is open. -/
structure State where
  entries : Entries := []
  path : List String := []

def split (path : List String) : Option (List String × String) :=
  path.getLast?.map fun last => (path.dropLast, last)

def State.step (s : State) : Line → Option State
  | .blank => some s
  | .table path => do
    let (way, last) ← split path
    return { entries := ← updateAt (openTable last) s.entries way, path := path }
  | .element path => do
    let (way, last) ← split path
    return { entries := ← updateAt (openElement last) s.entries way, path := path }
  | .entry path v => do
    let insert (entries : Entries) := insertAt .header entries (.value v) path
    return { s with entries := ← updateAt insert s.entries s.path }

/-- The content of a settings file, if it is well formed. -/
def ofText (text : String) : Option Value := do
  let list ← lines.all text.toList
  let state ← list.foldlM State.step {}
  return .fields (fieldsOf state.entries)

end Commentary.Toml
