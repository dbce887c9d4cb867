import Commentary.Glob
import Commentary.Locale.Codec
import Commentary.Path
import Commentary.Text.Search

/-! The configuration: where the sources are, which of them count, and the words of the pages. -/
namespace Commentary

open Value

/-- No pattern, a single one, or a list of them. -/
inductive Patterns where
  | none
  | one (pattern : String)
  | many (patterns : List String)
deriving Repr, DecidableEq, Inhabited

namespace Patterns

def toList : Patterns → List String
  | .none => []
  | .one p => [p]
  | .many ps => ps

def add (p : String) : Patterns → Patterns
  | .none => .one p
  | .one first => .many [first, p]
  | .many ps => .many (ps ++ [p])

/-- Other patterns replace the ones below them, if there are any. -/
def overlay (base top : Patterns) : Patterns :=
  match top with
  | .none => base
  | _ => top

def isText : Value → Bool
  | .text _ => true
  | _ => false

def ofValue : Value → Except Mismatch Patterns
  | .null => .ok .none
  | .text p => .ok (.one p)
  | .list items =>
    if items.all isText then (items.mapM (asText "a string")).map .many
    else .error (.noVariant "MatchPatterns")
  | _ => .error (.noVariant "MatchPatterns")

end Patterns

structure Config where
  sourceDir : String
  patterns : Patterns := .none
  words : LocaleOverrides := {}
deriving Repr, DecidableEq

namespace Config

inductive Error where
  | notFound (root : String)
  | missingSourceDir
  | invalidPattern (pattern details : String)
  | invalidValue (details : String)
  | io (details : String)
deriving Repr, DecidableEq

def Error.message : Error → String
  | .notFound root => "config not found in " ++ root
  | .missingSourceDir => "`sourceDir` is required"
  | .invalidPattern pattern details => "invalid match pattern `" ++ pattern ++ "`: " ++ details
  | .invalidValue details => "invalid config value: " ++ details
  | .io details => "I/O error: " ++ details

/-- Compiles patterns, or reports the first one that is none. -/
def compile (patterns : List String) : Except Error (List Glob) :=
  patterns.mapM fun p => (Glob.ofText p).mapError fun e => .invalidPattern p e.message

def validate (c : Config) : Except Error Unit := do
  if c.sourceDir.isEmpty then throw .missingSourceDir
  let _ ← compile c.patterns.toList

def withPattern (c : Config) (p : String) : Config :=
  { c with patterns := c.patterns.add p }

/-- The configuration seen from a root directory. -/
def resolve (c : Config) (root : String) : Config :=
  { c with sourceDir := Path.resolve root c.sourceDir }

def locale (c : Config) : Locale :=
  ({} : Locale).override c.words

def sourceDir? : Value → Except Mismatch String := asText "path string"

/-- The source directory under either of its names, but not under both. -/
def namedSourceDir (entries : List (String × Value)) : Except Mismatch (Option String) := do
  let main ← readOr (fun v => (sourceDir? v).map some) none (entries.lookup "sourceDir")
  match main, entries.lookup "source_dir" with
  | some _, some _ => throw (.duplicate "sourceDir")
  | none, some v => (sourceDir? v).map some
  | main, none => return main

/-- Fields are looked at in ascending order of their names. -/
def ofFields (entries : List (String × Value)) : Except Mismatch Config := do
  let words ← readOr (LocaleOverrides.ofValue true) {} (entries.lookup "i18n")
  let patterns ← readOr Patterns.ofValue .none (entries.lookup "match")
  match ← namedSourceDir entries with
  | some sourceDir => return { sourceDir, patterns, words }
  | none => throw (.missing "sourceDir")

/-- A list gives the source directory, the patterns and the words; the last two may be
missing. -/
def ofItems : List Value → Except Mismatch Config
  | [] => .error (.length 0 "struct DocsConfig with 3 elements")
  | first :: more => do
    let sourceDir ← sourceDir? first
    let patterns ← readOr Patterns.ofValue .none more.head?
    let words ← readOr (LocaleOverrides.ofValue true) {} more.tail.head?
    if 2 < more.length then throw (.length (more.length + 1) "fewer elements in array")
    return { sourceDir, patterns, words }

def decode : Value → Except Mismatch Config
  | .fields entries => ofFields entries
  | .list items => ofItems items
  | v => v.mismatch "struct DocsConfig"

def missingText : String := (Mismatch.missing "sourceDir").message

/-- A message that speaks of the missing directory counts as that error. -/
def ofMismatch (m : Mismatch) : Error :=
  if Text.occursIn missingText.toList m.message.toList then .missingSourceDir
  else .invalidValue m.message

/-- Reads and validates a configuration. -/
def ofValue (v : Value) : Except Error Config := do
  let c ← (decode v).mapError ofMismatch
  c.validate
  return c

def toValue (c : Config) : Value :=
  .fields (
    [("sourceDir", .text c.sourceDir)] ++
    (match c.patterns with
      | .none => []
      | .one p => [("match", .text p)]
      | .many ps => [("match", texts ps)]) ++
    [("i18n", c.words.toValue)])

end Config

end Commentary
