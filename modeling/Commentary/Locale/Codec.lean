import Commentary.Locale
import Commentary.Value

/-! Words as values. Each word has a main name and other spellings of it. -/
namespace Commentary

open Value

namespace LocaleOverrides

inductive Word where
  | params
  | returns
  | examples
  | optional
  | defaultAs
deriving Repr, DecidableEq

def Word.name : Word → String
  | .params => "Params"
  | .returns => "Returns"
  | .examples => "Example"
  | .optional => "Optional"
  | .defaultAs => "DefaultAs"

/-- Every spelling, in ascending order. Fields are looked at in this order. -/
def spellings : List (String × Word) :=
  [("DefaultAs", .defaultAs), ("Example", .examples), ("Optional", .optional),
   ("Params", .params), ("Returns", .returns), ("default_as", .defaultAs),
   ("defaultas", .defaultAs), ("example", .examples), ("optional", .optional),
   ("params", .params), ("returns", .returns)]

/-- The words in the order in which a list gives them. -/
def positions : List Word :=
  [.params, .returns, .examples, .optional, .defaultAs]

abbrev Chosen := List (Word × Option String)

def word? : Value → Except Mismatch (Option String) := asOption (asText "a string")

/-- A word is set at most once, whatever spelling it comes with. -/
def choose (entries : List (String × Value)) (chosen : Chosen) (spelling : String × Word) :
    Except Mismatch Chosen :=
  match entries.lookup spelling.1 with
  | none => .ok chosen
  | some v =>
    if (chosen.lookup spelling.2).isSome then .error (.duplicate spelling.2.name)
    else (word? v).map fun text => (spelling.2, text) :: chosen

def ofChosen (chosen : Chosen) : LocaleOverrides where
  params := (chosen.lookup .params).join
  returns := (chosen.lookup .returns).join
  examples := (chosen.lookup .examples).join
  optional := (chosen.lookup .optional).join
  defaultAs := (chosen.lookup .defaultAs).join

/-- Reads words by name, or from a list of them. A list may end early; when it goes on too
long, what is left over is an error or not. -/
def ofValue (exact : Bool) : Value → Except Mismatch LocaleOverrides
  | .fields entries => (spellings.foldlM (choose entries) []).map ofChosen
  | .list items => do
    let texts ← (items.take positions.length).mapM word?
    if exact && positions.length < items.length then
      throw (.length items.length "fewer elements in array")
    return ofChosen (positions.zip texts)
  | v => v.mismatch "struct LocaleOverrides"

def textOrNull : Option String → Value
  | some s => .text s
  | none => .null

def fields (o : LocaleOverrides) : List (String × Value) :=
  [("Params", textOrNull o.params), ("Returns", textOrNull o.returns),
   ("Example", textOrNull o.examples), ("Optional", textOrNull o.optional),
   ("DefaultAs", textOrNull o.defaultAs)]

def toValue (o : LocaleOverrides) : Value :=
  .fields o.fields

end LocaleOverrides

def Locale.toValue (l : Locale) : Value :=
  .fields [("Params", .text l.params), ("Returns", .text l.returns),
    ("Example", .text l.examples), ("Optional", .text l.optional),
    ("DefaultAs", .text l.defaultAs)]

end Commentary
