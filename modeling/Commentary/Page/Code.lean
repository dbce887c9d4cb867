/-! Texts inside a page that must not be read as markup. -/
namespace Commentary.Page

def backtick : Char := '\x60'

/-- The longest run of backticks, given the length of the run so far. -/
def longestRun (run : Nat) : List Char → Nat
  | [] => run
  | c :: rest => if c = backtick then longestRun (run + 1) rest else max run (longestRun 0 rest)

/-- A text as code. The fence is longer than every run of backticks in the text. -/
def code (value : String) : String :=
  match longestRun 0 value.toList with
  | 0 => "`" ++ value ++ "`"
  | n + 1 =>
    let fence := String.ofList (List.replicate (n + 2) backtick)
    fence ++ " " ++ value ++ " " ++ fence

def escapeAngle (c : Char) : List Char :=
  if c = '<' || c = '>' then ['\\', c] else [c]

def escapeAngles (text : String) : String :=
  String.ofList (text.toList.flatMap escapeAngle)

end Commentary.Page
