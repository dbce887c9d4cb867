import Commentary.Toml.Text
import Commentary.Value

/-! Numbers, truth values and dates. -/
namespace Commentary.Toml

open Text Text.Scan

def isDigitOf (base : Nat) (c : Char) : Bool :=
  match hexDigit? c with
  | some d => d < base
  | none => false

def number (base : Nat) (digits : List Char) : Nat :=
  digits.foldl (fun n c => base * n + (hexDigit? c).getD 0) 0

/-- Digits with single underscores between them. -/
def digitGroups (base : Nat) : Scan (List Char) := do
  let groups ← sepBy (do
    let group ← takeWhile (isDigitOf base)
    guard (!group.isEmpty)
    return group) (eat ['_'])
  return groups.flatten

def sign : Scan Int := do
  if ← eat ['-'] then return -1
  let _ ← eat ['+']
  return 1

/-- A number does not start with a zero, unless it is one. -/
def wholePart : Scan (List Char) := do
  let digits ← digitGroups 10
  guard (digits.head? != some '0' || digits.length == 1)
  return digits

def asWord (n : Int) : Scan Value := do
  guard (-0x8000000000000000 ≤ n && n < 0x8000000000000000)
  return .int n

def based (base : Nat) : Scan Value := do
  asWord (number base (← digitGroups base))

def exponent : Scan (Option Int) := do
  if ← eat ['e'] <||> eat ['E'] then
    let s ← sign
    return some (s * (number 10 (← digitGroups 10) : Int))
  else return none

/-- `digits / 10 ^ places`. -/
def decimal (digits places : Int) : Value :=
  if 0 ≤ places then .decimal digits places.toNat
  else .decimal (digits * Int.pow 10 (-places).toNat) 0

def numeral : Scan Value := do
  let s ← sign
  if ← eat ['i', 'n', 'f'] <||> eat ['n', 'a', 'n'] then return .nonFinite
  let whole ← wholePart
  let fraction ← if ← eat ['.'] then some <$> digitGroups 10 else pure none
  let power ← exponent
  if fraction.isNone && power.isNone then asWord (s * (number 10 whole : Int))
  else
    let fraction := fraction.getD []
    return decimal (s * (number 10 (whole ++ fraction) : Int)) (fraction.length - power.getD 0)

/-- A number of so many digits within limits. -/
def field (digits low high : Nat) : Scan Nat := do
  let text ← (List.replicate digits ()).mapM fun _ => item
  guard (text.all (isDigitOf 10))
  let n := number 10 text
  guard (low ≤ n && n ≤ high)
  return n

def isLeap (year : Nat) : Bool :=
  year % 4 == 0 && (year % 100 != 0 || year % 400 == 0)

def daysIn (year month : Nat) : Nat :=
  if month == 2 then if isLeap year then 29 else 28
  else if [4, 6, 9, 11].contains month then 30
  else 31

def date : Scan Unit := do
  let year ← field 4 0 9999
  expect ['-']
  let month ← field 2 1 12
  expect ['-']
  let _ ← field 2 1 (daysIn year month)

def time : Scan Unit := do
  let _ ← field 2 0 23
  expect [':']
  let _ ← field 2 0 59
  expect [':']
  let _ ← field 2 0 60
  if ← eat ['.'] then
    let digits ← takeWhile (isDigitOf 10)
    guard (!digits.isEmpty)

def offset : Scan Unit := do
  if ← eat ['Z'] <||> eat ['z'] then return
  if ← eat ['+'] <||> eat ['-'] then
    let _ ← field 2 0 23
    expect [':']
    let _ ← field 2 0 59

def dateTime : Scan Unit := do
  date
  if (← get).isEmpty then return
  let c ← item
  guard (c == 'T' || c == 't' || c == ' ')
  time
  offset

def isTokenChar (c : Char) : Bool :=
  c.isAlphanum || c == '+' || c == '-' || c == '_' || c == '.' || c == ':'

/-- A blank may stand between a date and a time. -/
def startsTime : List Char → Bool
  | ' ' :: a :: b :: ':' :: _ => isDigitOf 10 a && isDigitOf 10 b
  | _ => false

def token : Scan (List Char) := do
  let first ← takeWhile isTokenChar
  if (date.all first).isSome && startsTime (← get) then
    let blank ← item
    let second ← takeWhile isTokenChar
    return first ++ blank :: second
  else return first

/-- A date or a time is kept as it is written, in a field of its own. -/
def pointInTime (text : List Char) : Value :=
  .fields [("time", .text (String.ofList text))]

def scalarOf (text : List Char) : Option Value :=
  if text = ['t', 'r', 'u', 'e'] then some (.bool true)
  else if text = ['f', 'a', 'l', 's', 'e'] then some (.bool false)
  else match text with
    | '0' :: 'x' :: digits => (based 16).all digits
    | '0' :: 'o' :: digits => (based 8).all digits
    | '0' :: 'b' :: digits => (based 2).all digits
    | _ =>
      numeral.all text <|> (dateTime.all text <|> time.all text).map fun _ => pointInTime text

def scalar : Scan Value := do
  let text ← token
  (scalarOf text : Option Value)

end Commentary.Toml
