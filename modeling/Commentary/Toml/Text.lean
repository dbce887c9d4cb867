import Commentary.Text.Scan

/-! Texts in quotes. A double quote takes escapes and a single one does not; three of them may
hold line ends. -/
namespace Commentary.Toml

open Text Text.Scan

def isSpace (c : Char) : Bool := c == ' ' || c == '\t'

/-- Characters that may stand for themselves. Of the control characters only the tab may. -/
def isPlain (c : Char) : Bool := (32 ≤ c.toNat && c.toNat != 127) || c == '\t'

def hexDigit? (c : Char) : Option Nat :=
  if '0' ≤ c && c ≤ '9' then some (c.toNat - 48)
  else if 'a' ≤ c && c ≤ 'f' then some (c.toNat - 87)
  else if 'A' ≤ c && c ≤ 'F' then some (c.toNat - 55)
  else none

/-- A character given by so many hexadecimal digits. -/
def codePoint (digits : Nat) : Scan Char := do
  let text ← (List.replicate digits ()).mapM fun _ => item
  let values ← (text.mapM hexDigit? : Option (List Nat))
  let n := values.foldl (fun n d => 16 * n + d) 0
  if n.isValidChar then return Char.ofNat n else failure

/-- What follows a backslash. -/
def escape : Scan Char := do
  match ← item with
  | 'b' => return '\x08'
  | 't' => return '\t'
  | 'n' => return '\n'
  | 'f' => return '\x0c'
  | 'r' => return '\r'
  | '"' => return '"'
  | '\\' => return '\\'
  | 'u' => codePoint 4
  | 'U' => codePoint 8
  | _ => failure

def newline : Scan Bool := do
  if ← eat ['\n'] then return true else eat ['\r', '\n']

/-- The rest of a text on one line, up to its closing quote. -/
def line (quote : Char) (escapes : Bool) : Scan (List Char) :=
  many do
    let c ← item
    if c == quote then return none
    else if escapes && c == '\\' then return some (← escape)
    else do
      guard (isPlain c)
      return some c

/-- Spaces and line ends. -/
def gap : Scan Unit := do
  let _ ← many do
    let spaces ← takeWhile isSpace
    if ← newline then return some () else
      if spaces.isEmpty then return none else return some ()

/-- A backslash at the end of a line hides the line end and the space after it. -/
def hiddenLineEnd : Scan Bool := do
  let text ← get
  let _ ← takeWhile isSpace
  if ← newline then
    gap
    return true
  else
    set text
    return false

/-- Up to two quotes are part of the text. At its end they stand before the closing ones. -/
def quotes (quote : Char) : Scan (Option (List Char)) := do
  let run ← takeWhile (· == quote)
  match run.length with
  | 3 => return none
  | 4 | 5 =>
    modify (List.replicate 3 quote ++ ·)
    return some (run.drop 3)
  | n => do
    guard (n < 3)
    return some run

def block (quote : Char) (escapes : Bool) : Scan (List Char) := do
  let _ ← newline
  let pieces ← many do
    if (← peek) == some quote then quotes quote
    else if ← newline then return some ['\n']
    else
      let c ← item
      if escapes && c == '\\' then
        if ← hiddenLineEnd then return some [] else return some [← escape]
      else do
        guard (isPlain c)
        return some [c]
  return pieces.flatten

/-- A text on one line. -/
def shortText (quote : Char) : Scan String := do
  expect [quote]
  return String.ofList (← line quote (quote == '"'))

def quotedText (quote : Char) : Scan String := do
  if ← eat [quote, quote, quote] then
    return String.ofList (← block quote (quote == '"'))
  else shortText quote

end Commentary.Toml
