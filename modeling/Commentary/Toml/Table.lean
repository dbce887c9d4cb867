import Commentary.Value

/-! Tables while they are being filled. Each table is defined once: by a header, or by the keys
with dots that lead into it. -/
namespace Commentary.Toml

/-- How a table came to be. -/
inductive Origin where
  /-- On the way to a header. -/
  | implied
  /-- On the way to a key with dots. -/
  | dotted
  | header
deriving Repr, DecidableEq

inductive Item where
  | value (v : Value)
  | table (origin : Origin) (entries : List (String × Item))
  /-- Tables under one name, newest first. -/
  | tables (list : List (List (String × Item)))

abbrev Entries := List (String × Item)

def Entries.set (entries : Entries) (key : String) (item : Item) : Entries :=
  if (entries.lookup key).isSome then
    entries.map fun e => if e.1 = key then (key, item) else e
  else entries ++ [(key, item)]

/-- Puts an item where a key with dots leads. A table on the way must not have a header, and the
last one must belong to such keys alone. -/
def insertAt (origin : Origin) (entries : Entries) (item : Item) : List String → Option Entries
  | [] => none
  | [key] =>
    if (entries.lookup key).isSome || origin == .implied then none
    else some (entries ++ [(key, item)])
  | key :: more =>
    match entries.lookup key with
    | none => (insertAt .dotted [] item more).map fun es => entries.set key (.table .dotted es)
    | some (.table .header _) => none
    | some (.table origin es) =>
      (insertAt origin es item more).map fun es => entries.set key (.table origin es)
    | some (.tables (last :: others)) =>
      (insertAt .implied last item more).map fun es => entries.set key (.tables (es :: others))
    | some _ => none

/-- Changes the table a header's path leads to. Tables on the way appear by themselves. -/
def updateAt (change : Entries → Option Entries) (entries : Entries) : List String → Option Entries
  | [] => change entries
  | key :: more =>
    match entries.lookup key with
    | none => (updateAt change [] more).map fun es => entries.set key (.table .implied es)
    | some (.table origin es) =>
      (updateAt change es more).map fun es => entries.set key (.table origin es)
    | some (.tables (last :: others)) =>
      (updateAt change last more).map fun es => entries.set key (.tables (es :: others))
    | some _ => none

/-- A header defines its table. -/
def openTable (key : String) (entries : Entries) : Option Entries :=
  match entries.lookup key with
  | none => some (entries.set key (.table .header []))
  | some (.table .implied es) => some (entries.set key (.table .header es))
  | some _ => none

/-- A header in double brackets adds a table to those under its name. -/
def openElement (key : String) (entries : Entries) : Option Entries :=
  match entries.lookup key with
  | none => some (entries.set key (.tables [[]]))
  | some (.tables list) => some (entries.set key (.tables ([] :: list)))
  | some _ => none

mutual

def Item.toValue : Item → Value
  | .value v => v
  | .table _ entries => .fields (fieldsOf entries)
  | .tables list => .list (valuesOf list).reverse

def fieldsOf : List (String × Item) → List (String × Value)
  | [] => []
  | (key, item) :: rest => (key, item.toValue) :: fieldsOf rest

def valuesOf : List (List (String × Item)) → List Value
  | [] => []
  | entries :: rest => .fields (fieldsOf entries) :: valuesOf rest

end

end Commentary.Toml
