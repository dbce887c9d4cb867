/-! Patterns over paths. A star stands for any run of characters without a slash, two stars
for any number of whole components, a question mark and a bracketed class for one character
other than a slash. -/
namespace Commentary

namespace Glob

/-- One entry of a class. A single character is a range of its own. -/
structure Range where
  low : Char
  high : Char
deriving Repr, DecidableEq

inductive Token where
  | char (c : Char)
  | any
  | anyRun
  | anyPath
  | within (ranges : List Range)
  | except (ranges : List Range)
deriving Repr, DecidableEq

inductive Error where
  | stars
  | component
  | range
deriving Repr, DecidableEq

def Error.message : Error → String
  | .stars => "wildcards are either regular `*` or recursive `**`"
  | .component => "recursive wildcards must form a single path component"
  | .range => "invalid range pattern"

def ranges : List Char → List Range
  | low :: '-' :: high :: rest => ⟨low, high⟩ :: ranges rest
  | c :: rest => ⟨c, c⟩ :: ranges rest
  | [] => []

/-- The text of a class and what follows its bracket. The first character is never the closing
bracket. -/
def spanClass : List Char → Option (List Char × List Char)
  | [] => none
  | first :: rest =>
    match rest.dropWhile (· != ']') with
    | [] => none
    | _ :: more => some (first :: rest.takeWhile (· != ']'), more)

theorem length_spanClass {text inner rest : List Char} (h : spanClass text = some (inner, rest)) :
    rest.length < text.length := by
  cases text with
  | nil => simp [spanClass] at h
  | cons first more =>
    have shorter := (List.dropWhile_suffix (l := more) (· != ']')).length_le
    simp only [spanClass] at h
    split at h
    · contradiction
    · rename_i c tail found
      rw [found] at shorter
      obtain ⟨-, rfl⟩ := Prod.mk.inj (Option.some.inj h)
      simp only [List.length_cons] at shorter ⊢
      omega

/-- Compiles a pattern. `atStart` says that a component starts here. -/
def compile (atStart : Bool) (text : List Char) : Except Error (List Token) :=
  match text with
  | [] => .ok []
  | '?' :: rest => (compile false rest).map (.any :: ·)
  | '*' :: '*' :: '*' :: _ => .error .stars
  | '*' :: '*' :: '/' :: rest =>
    if atStart then (compile true rest).map (.anyPath :: ·) else .error .component
  | '*' :: '*' :: rest =>
    if atStart && rest.isEmpty then .ok [.anyPath] else .error .component
  | '*' :: rest => (compile false rest).map (.anyRun :: ·)
  | '[' :: '!' :: rest =>
    match h : spanClass rest with
    | none => .error .range
    | some (inner, more) =>
      have := length_spanClass h
      (compile false more).map (.except (ranges inner) :: ·)
  | '[' :: rest =>
    match h : spanClass rest with
    | none => .error .range
    | some (inner, more) =>
      have := length_spanClass h
      (compile false more).map (.within (ranges inner) :: ·)
  | c :: rest => (compile (c == '/') rest).map (.char c :: ·)
termination_by text.length

def inRange (c : Char) (r : Range) : Bool :=
  r.low ≤ c && c ≤ r.high

def Token.accepts (t : Token) (c : Char) : Bool :=
  match t with
  | .char d => c == d
  | .any => c != '/'
  | .within list => c != '/' && list.any (inRange c)
  | .except list => c != '/' && !list.any (inRange c)
  | .anyRun | .anyPath => false

/-- Some suffix that is reached without a slash satisfies the rest. -/
def someRun (rest : List Char → Bool) : List Char → Bool
  | [] => rest []
  | c :: cs => rest (c :: cs) || (c != '/' && someRun rest cs)

/-- Some suffix behind a slash, or the empty one, satisfies the rest. -/
def somePath (rest : List Char → Bool) : List Char → Bool
  | [] => rest []
  | c :: cs => (c == '/' && rest cs) || somePath rest cs

def accepts : List Token → List Char → Bool
  | [], text => text.isEmpty
  | .anyRun :: more, text => someRun (accepts more) text
  | .anyPath :: more, text => accepts more text || somePath (accepts more) text
  | _ :: _, [] => false
  | t :: more, c :: cs => t.accepts c && accepts more cs

end Glob

/-- A compiled pattern. -/
structure Glob where
  tokens : List Glob.Token
deriving Repr, DecidableEq

def Glob.ofText (pattern : String) : Except Glob.Error Glob :=
  (Glob.compile true pattern.toList).map Glob.mk

def Glob.matches (glob : Glob) (path : String) : Bool :=
  Glob.accepts glob.tokens path.toList

end Commentary
