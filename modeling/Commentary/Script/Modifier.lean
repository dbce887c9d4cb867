import Commentary.Script.Reading

/-! Words in front of a member or parameter that say more about it. -/
namespace Commentary.Script.Grammar

open Reading

def canFollowModifier : Reading Bool := do
  match ← lexeme with
  | .word _ _ | .quoted _ | .number | .privateName _ => return true
  | .mark m => return ["[", curly, "*", "..."].contains m
  | _ => return false

/-- One of these words, if it is a modifier here and no name. Only `static` may end its line. -/
def modifier? (words : List String) : Reading (Option String) := do
  match ← lexeme with
  | .word w false =>
    if !words.contains w then return none
    let applies ← afterwards do
      return (w == "static" || !(← isFresh)) && (← canFollowModifier)
    if applies then bump; return some w else return none
  | _ => return none

/- A second `static` is a name. -/
def modifiers (words : List String) : Reading (List String) := do
  let found ← iterate (fun found => do
    match ← modifier? (if found.contains "static" then words.erase "static" else words) with
    | some w => return .inl (w :: found)
    | none => return .inr found) []
  return found.reverse

def memberModifiers : List String :=
  ["static", "async", "accessor", "public", "private", "protected", "readonly", "abstract",
   "override", "declare"]

def parameterModifiers : List String :=
  ["public", "private", "protected", "readonly", "override"]

end Commentary.Script.Grammar
