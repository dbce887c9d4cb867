/-! Reading a text from its start. A scan that fails leaves nothing behind. -/
namespace Commentary.Text

abbrev Scan := StateT (List Char) Option

namespace Scan

variable {α : Type}

def peek : Scan (Option Char) :=
  return (← get).head?

def item : Scan Char := fun text =>
  match text with
  | [] => none
  | c :: rest => some (c, rest)

/-- Takes a piece off the text if the text starts with it. -/
def eat (piece : List Char) : Scan Bool := do
  let text ← get
  if piece.isPrefixOf text then
    set (text.drop piece.length)
    return true
  else return false

def expect (piece : List Char) : Scan Unit := do
  guard (← eat piece)

def takeWhile (p : Char → Bool) : Scan (List Char) := do
  let text ← get
  set (text.dropWhile p)
  return text.takeWhile p

def repeatAtMost (step : Scan (Option α)) : Nat → Scan (List α)
  | 0 => failure
  | n + 1 => do
    match ← step with
    | some a => return a :: (← repeatAtMost step n)
    | none => return []

/-- Repeats a step that takes something off the text until it says that it is done. -/
def many (step : Scan (Option α)) : Scan (List α) := do
  repeatAtMost step ((← get).length + 1)

/-- One item or more with a separator between each two. -/
def sepBy (item : Scan α) (separator : Scan Bool) : Scan (List α) := do
  let first ← item
  let more ← many do
    if ← separator then return some (← item) else return none
  return first :: more

/-- The result of a scan that reads all of the text. -/
def all (scan : Scan α) (text : List Char) : Option α :=
  match scan text with
  | some (a, []) => some a
  | _ => none

end Scan

end Commentary.Text
