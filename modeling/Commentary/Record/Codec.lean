import Commentary.Record
import Commentary.Value

/-! Records as values. Unset and empty fields are left out, except that a parameter always says
whether it is optional. Reading takes fields by name, or a list with the fields in their order. -/
namespace Commentary

open Value

namespace Kind

def toValue : Kind → Value
  | .file => .text "file"
  | .block => .text "block"

def ofName (name : String) : Except Mismatch Kind :=
  if name = "file" then .ok .file
  else if name = "block" then .ok .block
  else .error (.noVariant "Kind")

/-- A kind is its name, or a field of that name with nothing in it. -/
def ofValue : Value → Except Mismatch Kind
  | .fields [(name, .null)] => ofName name
  | v => asText "a kind" v >>= ofName

end Kind

namespace Param

def fields (p : Param) : List (String × Value) :=
  [("name", .text p.name)] ++
  field? "types" texts (nonEmpty p.types) ++
  [("optional", .bool p.optional)] ++
  field? "default" .text p.default ++
  field? "desc" .text p.desc

def toValue (p : Param) : Value :=
  .fields p.fields

def name? : Value → Except Mismatch String := asText "a string"
def words? : Value → Except Mismatch (List String) := asList (asText "a string")
def note? : Value → Except Mismatch (Option String) := asOption (asText "a string")

def ofFields (entries : List (String × Value)) : Except Mismatch Param := do
  let name ← required name? "name" entries
  let types ← readOr words? [] (entries.lookup "types")
  let optional ← readOr asBool false (entries.lookup "optional")
  let default ← readOr note? none (entries.lookup "default")
  let desc ← readOr note? none (entries.lookup "desc")
  return { name, types, optional, default, desc }

def ofValue : Value → Except Mismatch Param
  | .fields entries => ofFields entries
  | .list [name, types, optional, default, desc] =>
    ofFields [("name", name), ("types", types), ("optional", optional), ("default", default),
      ("desc", desc)]
  | .list items => .error (.length items.length "a parameter with 5 elements")
  | v => v.mismatch "a parameter"

end Param

namespace Record

def fields (r : Record) : List (String × Value) :=
  [("kind", r.kind.toValue), ("name", .text r.name)] ++
  field? "alias" .text r.label ++
  field? "desc" .text r.desc ++
  field? "params" (fun list => .list (list.map Param.toValue)) (nonEmpty r.params) ++
  field? "returns" Param.toValue r.returns ++
  field? "examples" texts (nonEmpty r.examples)

def toValue (r : Record) : Value :=
  .fields r.fields

def ofFields (entries : List (String × Value)) : Except Mismatch Record := do
  let kind ← required Kind.ofValue "kind" entries
  let name ← required Param.name? "name" entries
  let label ← readOr Param.note? none (entries.lookup "alias")
  let desc ← readOr Param.note? none (entries.lookup "desc")
  let params ← readOr (asList Param.ofValue) [] (entries.lookup "params")
  let returns ← readOr (asOption Param.ofValue) none (entries.lookup "returns")
  let examples ← readOr Param.words? [] (entries.lookup "examples")
  return { kind, name, label, desc, params, returns, examples }

/-- Examples may be missing at the end of a list. -/
def ofValue : Value → Except Mismatch Record
  | .fields entries => ofFields entries
  | .list [kind, name, label, desc, params, returns] =>
    ofFields [("kind", kind), ("name", name), ("alias", label), ("desc", desc),
      ("params", params), ("returns", returns)]
  | .list [kind, name, label, desc, params, returns, examples] =>
    ofFields [("kind", kind), ("name", name), ("alias", label), ("desc", desc),
      ("params", params), ("returns", returns), ("examples", examples)]
  | .list items => .error (.length items.length "a record with 7 elements")
  | v => v.mismatch "a record"

end Record

end Commentary
