import Commentary.Text.Trim
import Commentary.Text.Pieces
import Commentary.Toml.Text
import Commentary.Value

/-! Settings from environment variables. The part of a name behind the common start is a path of
fields, and a value may be written like a value of a settings file. What cannot be read that way
is a text as it is. -/
namespace Commentary

namespace Value

/-- Sets a field, in the place it has or behind all others. -/
def setField (entries : List (String × Value)) (key : String) (v : Value) :
    List (String × Value) :=
  if (entries.lookup key).isSome then
    entries.map fun e => if e.1 = key then (key, v) else e
  else entries ++ [(key, v)]

mutual

/-- One value on top of another. Fields are joined, all else is replaced. -/
def join (base : Value) : Value → Value
  | .fields entries =>
    match base with
    | .fields old => .fields (joinFields old entries)
    | _ => .fields entries
  | v => v

def joinFields (base : List (String × Value)) : List (String × Value) → List (String × Value)
  | [] => base
  | (key, v) :: rest =>
    let next := match base.lookup key with
      | some old => join old v
      | none => v
    joinFields (setField base key next) rest

end

/-- A value at the end of a path of fields. -/
def nested (v : Value) : List String → Value
  | [] => v
  | key :: more => .fields [(key, v.nested more)]

end Value

namespace Environment

open Text Text.Scan

def isSpace (c : Char) : Bool :=
  c == ' ' || c == '\t' || c == '\n' || c == '\r' || c == '\x0c'

def spaces : Scan Unit := do
  let _ ← takeWhile isSpace

/-- Items between brackets with commas between them. A comma may stand behind the last one. -/
def enclosed {α : Type} (opening closing : Char) (item : Scan α) : Scan (List α) := do
  expect [opening]
  let items ← many do
    if ← eat [closing] then return none
    let a ← item
    unless ← eat [','] do guard ((← peek) == some closing)
    return some a
  return items

def isDigit (c : Char) : Bool := '0' ≤ c && c ≤ '9'

def natural (digits : List Char) : Nat :=
  digits.foldl (fun n c => 10 * n + (c.toNat - 48)) 0

def sign : Scan Int := do
  if ← eat ['-'] then return -1
  let _ ← eat ['+']
  return 1

def integer : Scan Value := do
  let s ← sign
  let digits ← takeWhile isDigit
  let n := s * (natural digits : Int)
  guard (!digits.isEmpty && Value.isWord n)
  return .int n

def exponent : Scan Int := do
  if ← eat ['e'] <||> eat ['E'] then
    let s ← sign
    let digits ← takeWhile isDigit
    guard (!digits.isEmpty)
    return s * (natural digits : Int)
  else return 0

/-- A number with a point, which needs digits on one side of it only. -/
def fraction : Scan Value := do
  let s ← sign
  let whole ← takeWhile isDigit
  expect ['.']
  let part ← takeWhile isDigit
  guard (!(whole ++ part).isEmpty)
  let e ← exponent
  let places : Int := part.length - e
  let digits := s * (natural (whole ++ part) : Int)
  return if 0 ≤ places then .decimal digits places.toNat
    else .decimal (digits * Int.pow 10 (-places).toNat) 0

def isSeparator (c : Char) : Bool :=
  [',', '\x7b', '\x7d', '[', ']'].contains c

def plainValue (text : List Char) : Value :=
  ((fraction.all text).or (integer.all text)).getD (.text (String.ofList text))

def isNameChar (c : Char) : Bool :=
  c.isAlphanum || c == '_' || c == '-'

def name : Scan String := do
  spaces
  let text ← if (← peek) == some '"' then Toml.shortText '"' else do
    let text ← takeWhile isNameChar
    guard (!text.isEmpty)
    pure (String.ofList text)
  spaces
  return text

def field (value : Scan Value) : Scan (String × Value) := do
  let key ← name
  expect ['=']
  return (key, ← value)

def valueOver (value : Scan Value) : Scan Value := do
  if ← eat ['t', 'r', 'u', 'e'] then return .bool true
  if ← eat ['f', 'a', 'l', 's', 'e'] then return .bool false
  match ← peek with
  | some '{' =>
    let entries ← enclosed '{' '}' (field value)
    return .fields (entries.foldl (fun es e => Value.setField es e.1 e.2) [])
  | some '[' => return .list (← enclosed '[' ']' value)
  | some '"' => return .text (← Toml.shortText '"')
  | some '\x27' =>
    expect ['\x27']
    let c ← item
    expect ['\x27']
    return .char c
  | _ =>
    let text ← takeWhile fun c => !isSeparator c
    return plainValue (trim text)

def value : Nat → Scan Value
  | 0 => failure
  | n + 1 => do
    spaces
    let v ← valueOver (value n)
    spaces
    return v

/-- The value of a variable. -/
def valueOf (text : String) : Value :=
  ((value (text.length + 1)).all text.toList).getD (.text text)

def commonStart : List Char := "docket_".toList

/-- Two underscores divide the fields of a path, and so does a point. -/
def divide : List Char → List Char
  | '_' :: '_' :: rest => '.' :: divide rest
  | c :: rest => c :: divide rest
  | [] => []

/-- The path a variable sets, if its name has the common start and no part of the rest is empty.
Names are the same in upper and lower case. -/
def pathOf (name : String) : Option (List String) :=
  let text := (trim name.toList).map Char.toLower
  if commonStart.isPrefixOf text then
    let parts := cut '.' (divide (text.drop commonStart.length))
    if parts.any List.isEmpty then none else some (parts.map String.ofList)
  else none

def addVariable (base : Value) (pair : String × String) : Value :=
  match pathOf pair.1 with
  | some path => base.join ((valueOf pair.2).nested path)
  | none => base

/-- What all variables set together. Later ones win. -/
def settings (vars : List (String × String)) : Value :=
  vars.foldl addVariable (.fields [])

end Environment

end Commentary
