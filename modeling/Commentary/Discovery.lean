import Commentary.Config
import Commentary.Environment
import Commentary.Toml

/-! The configuration found in a root directory: a settings file with environment variables on
top of it. -/
namespace Commentary

open Value

/-- Settings from one place, which need not be complete. -/
structure Layer where
  sourceDir : Option String := none
  patterns : Patterns := .none
  words : LocaleOverrides := {}
deriving Repr, DecidableEq

namespace Layer

def ofFields (entries : List (String × Value)) : Except Mismatch Layer := do
  let words ← readOr (LocaleOverrides.ofValue false) {} (entries.lookup "i18n")
  let patterns ← readOr Patterns.ofValue .none (entries.lookup "match")
  let sourceDir ← Config.namedSourceDir entries
  return { sourceDir, patterns, words }

def ofValue : Value → Except Config.Error Layer
  | .fields entries => (ofFields entries).mapError fun m => .invalidValue m.message
  | v => .error (.invalidValue (v.describe ++ " is not a set of fields"))

/-- Each setting of the top replaces the one below it. -/
def overlay (base top : Layer) : Layer where
  sourceDir := top.sourceDir.or base.sourceDir
  patterns := base.patterns.overlay top.patterns
  words := base.words.overlay top.words

/-- A settings file. -/
def ofFile (text : String) : Except Config.Error Layer :=
  match Toml.ofText text with
  | some v => ofValue v
  | none => .error (.invalidValue "the settings file is not well formed")

def ofEnvironment (vars : List (String × String)) : Except Config.Error Layer :=
  ofValue (Environment.settings vars)

/-- The configuration in a root directory. -/
def config (l : Layer) (root : String) : Except Config.Error Config := do
  match l.sourceDir with
  | none => throw .missingSourceDir
  | some sourceDir =>
    let c := Config.resolve ⟨sourceDir, l.patterns, l.words⟩ root
    c.validate
    return c

end Layer

/-- Loads the configuration of a root directory. There is none without a settings file unless
the environment sets something. -/
def Config.load (root : String) (file : Option String) (vars : List (String × String)) :
    Except Config.Error Config := do
  let bottom ← (file.map Layer.ofFile).getD (.ok {})
  let top ← Layer.ofEnvironment vars
  if file.isNone && top == {} then throw (.notFound root)
  (bottom.overlay top).config root

end Commentary
