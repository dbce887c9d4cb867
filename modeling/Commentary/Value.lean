import Commentary.Decimal
import Commentary.Text.Quoted

/-! Untyped values, as a data file or a caller hands them over, and the reasons for which one
does not have the form that is asked for. -/
namespace Commentary

inductive Value where
  | null
  | bool (b : Bool)
  | int (n : Int)
  /-- `mantissa / 10 ^ places`. -/
  | decimal (mantissa : Int) (places : Nat)
  /-- Infinity, or no number at all. -/
  | nonFinite
  | char (c : Char)
  | text (s : String)
  | list (items : List Value)
  | fields (entries : List (String × Value))
deriving Inhabited

namespace Value

/-- Numbers outside the words of 64 bits are kept as fractions. -/
def isWord (n : Int) : Bool :=
  -0x8000000000000000 ≤ n && n < 0x10000000000000000

/-- What a value is, for a message. -/
def describe : Value → String
  | .null => "null"
  | .bool b => "boolean `" ++ (if b then "true" else "false") ++ "`"
  | .int n =>
    if isWord n then "integer `" ++ toString n ++ "`"
    else "floating point `" ++ Decimal.text n 0 ++ "`"
  | .decimal mantissa places => "floating point `" ++ Decimal.text mantissa places ++ "`"
  | .nonFinite => "floating point `NaN`"
  | .char c => "character `" ++ String.singleton c ++ "`"
  | .text s => "string " ++ Text.quoted s
  | .list _ => "sequence"
  | .fields _ => "map"

/-- Why a value does not have the form that is asked for. -/
inductive Mismatch where
  | kind (found wanted : String)
  | length (found : Nat) (wanted : String)
  | missing (field : String)
  | duplicate (field : String)
  | noVariant (type : String)
deriving Repr, DecidableEq

def Mismatch.message : Mismatch → String
  | .kind found wanted => "invalid type: " ++ found ++ ", expected " ++ wanted
  | .length found wanted => "invalid length " ++ toString found ++ ", expected " ++ wanted
  | .missing field => "missing field `" ++ field ++ "`"
  | .duplicate field => "duplicate field `" ++ field ++ "`"
  | .noVariant type => "data did not match any variant of untagged enum " ++ type

def mismatch {α : Type} (v : Value) (wanted : String) : Except Mismatch α :=
  .error (.kind v.describe wanted)

/-- A text, for which a single character will do. -/
def asText (wanted : String) : Value → Except Mismatch String
  | .text s => .ok s
  | .char c => .ok (String.singleton c)
  | v => v.mismatch wanted

def asBool : Value → Except Mismatch Bool
  | .bool b => .ok b
  | v => v.mismatch "a boolean"

def asList {α : Type} (item : Value → Except Mismatch α) : Value → Except Mismatch (List α)
  | .list items => items.mapM item
  | v => v.mismatch "a sequence"

/-- A value that may be null. -/
def asOption {α : Type} (some? : Value → Except Mismatch α) : Value → Except Mismatch (Option α)
  | .null => .ok none
  | v => (some? v).map some

/-- A field that must be there. -/
def required {α : Type} (read : Value → Except Mismatch α) (field : String)
    (entries : List (String × Value)) : Except Mismatch α :=
  match entries.lookup field with
  | some v => read v
  | none => .error (.missing field)

/-- A value that may be missing altogether, with what stands for it then. -/
def readOr {α : Type} (read : Value → Except Mismatch α) (fallback : α) :
    Option Value → Except Mismatch α
  | some v => read v
  | none => .ok fallback

/-- A field that is written only if it is set. -/
def field? {α : Type} (field : String) (write : α → Value) : Option α → List (String × Value)
  | some a => [(field, write a)]
  | none => []

def texts (list : List String) : Value :=
  .list (list.map .text)

def nonEmpty {α : Type} (list : List α) : Option (List α) :=
  if list.isEmpty then none else some list

end Value

end Commentary
