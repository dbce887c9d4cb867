import Commentary.Proofs.Fields
import Commentary.Record.Codec

/-! Records as values and back. The same record can be spelled in many ways: by fields in any order
and with others among them, with unset ones left out or null, or by a list. All of them are read
alike, and what is written is one of them. -/
namespace Commentary

open Value

attribute [local simp] List.lookup_cons lookup_written lookup_last_written

namespace Value

def IsText (s : String) (v : Value) : Prop :=
  v = .text s

theorem isText_text (s : String) : IsText s (.text s) :=
  rfl

theorem asText_reads (wanted : String) : ∀ s v, IsText s v → asText wanted v = .ok s := by
  rintro s v rfl
  rfl

theorem asText_refuses (wanted : String) : ∀ s, asText wanted .null ≠ .ok s :=
  fun _ => nofun

theorem keys_written {α : Type} (field : String) (write : α → Value) (o : Option α) :
    ((field? field write o).map Prod.fst).Sublist [field] := by
  cases o with
  | none => exact List.nil_sublist _
  | some a => exact List.Sublist.refl _

end Value

namespace Kind

/-- A kind is its name, or a field of that name with nothing in it. -/
inductive Spelled (k : Kind) : Value → Prop
  | name : k.Spelled k.toValue
  | field {name : String} (named : k.toValue = .text name) : k.Spelled (.fields [(name, .null)])

theorem ofValue_spelled {k : Kind} {v : Value} (spelled : k.Spelled v) : ofValue v = .ok k := by
  cases spelled with
  | name => cases k <;> rfl
  | field named => cases k <;> (cases named; rfl)

end Kind

namespace Param

structure Entries (p : Param) (entries : List (String × Value)) : Prop where
  name : ("name", .text p.name) ∈ entries
  types : Lists IsText entries "types" p.types
  optional : Marks entries "optional" p.optional
  default : Gives IsText entries "default" p.default
  desc : Gives IsText entries "desc" p.desc

def order : List String := ["name", "types", "optional", "default", "desc"]

/-- A parameter is spelled by its fields, or by a list of their values in their own order. -/
inductive Spelled (p : Param) : Value → Prop
  | fields {entries : List (String × Value)} (distinct : (entries.map Prod.fst).Nodup)
    (all : p.Entries entries) : p.Spelled (.fields entries)
  | list {items : List Value} (count : items.length = 5) (all : p.Entries (order.zip items)) :
    p.Spelled (.list items)

theorem ofFields_eq {p : Param} {entries : List (String × Value)}
    (distinct : (entries.map Prod.fst).Nodup) (all : p.Entries entries) :
    ofFields entries = .ok p := by
  have name : required name? "name" entries = .ok p.name :=
    required_of_mem distinct all.name name?
  have types : readOr words? [] (entries.lookup "types") = .ok p.types :=
    all.types.readOr_eq distinct (asText_reads _)
  have optional := all.optional.readOr_eq distinct
  have default : readOr note? none (entries.lookup "default") = .ok p.default :=
    all.default.readOr_eq distinct (asText_reads _) (asText_refuses _)
  have desc : readOr note? none (entries.lookup "desc") = .ok p.desc :=
    all.desc.readOr_eq distinct (asText_reads _) (asText_refuses _)
  rw [ofFields, name, types, optional, default, desc]
  rfl

theorem ofValue_spelled (p : Param) (v : Value) (spelled : p.Spelled v) : ofValue v = .ok p := by
  have distinct : order.Nodup := by decide
  cases spelled with
  | fields distinct all => exact ofFields_eq distinct all
  | @list items count all =>
    match items, count, all with
    | [_, _, _, _, _], _, all => exact ofFields_eq distinct all

theorem ofValue_refuses : ∀ p, ofValue .null ≠ .ok p :=
  fun _ => nofun

theorem entries_fields (p : Param) : p.Entries p.fields where
  name := by simp [fields]
  types := .of_lookup isText_text (show _ = Option.map texts _ by simp [fields])
  optional := .set (by simp [fields])
  default := .of_lookup isText_text (by simp [fields])
  desc := .of_lookup isText_text (by simp [fields])

theorem spelled_toValue (p : Param) : p.Spelled p.toValue := by
  refine .fields (List.Nodup.sublist ?_ (show order.Nodup by decide)) p.entries_fields
  simp only [fields, List.map_append]
  exact ((((List.Sublist.refl _).append (keys_written _ _ _)).append (List.Sublist.refl _)).append
    (keys_written _ _ _)).append (keys_written _ _ _)

theorem sparse_toValue (p : Param) : p.toValue.Sparse := by
  refine ⟨p.fields, rfl, ?_⟩
  have text (s : String) : Filled (.text s) := ⟨nofun, nofun⟩
  have mark (b : Bool) : Filled (.bool b) := ⟨nofun, nofun⟩
  simp only [fields, List.forall_mem_append, List.forall_mem_singleton]
  exact ⟨⟨⟨⟨text _, filled_written (filled_items .text)⟩, mark _⟩,
    filled_written fun s _ => text s⟩, filled_written fun s _ => text s⟩

end Param

namespace Record

structure Entries (r : Record) (entries : List (String × Value)) : Prop where
  kind : ∃ v, r.kind.Spelled v ∧ ("kind", v) ∈ entries
  name : ("name", .text r.name) ∈ entries
  label : Gives IsText entries "alias" r.label
  desc : Gives IsText entries "desc" r.desc
  params : Lists Param.Spelled entries "params" r.params
  returns : Gives Param.Spelled entries "returns" r.returns
  examples : Lists IsText entries "examples" r.examples

def order : List String := ["kind", "name", "alias", "desc", "params", "returns", "examples"]

/-- A record is spelled by its fields, or by a list of their values in their own order, which may
end before the examples. -/
inductive Spelled (r : Record) : Value → Prop
  | fields {entries : List (String × Value)} (distinct : (entries.map Prod.fst).Nodup)
    (all : r.Entries entries) : r.Spelled (.fields entries)
  | list {items : List Value} (count : items.length = 6 ∨ items.length = 7)
    (all : r.Entries (order.zip items)) : r.Spelled (.list items)

theorem ofFields_eq {r : Record} {entries : List (String × Value)}
    (distinct : (entries.map Prod.fst).Nodup) (all : r.Entries entries) :
    ofFields entries = .ok r := by
  have kind : required Kind.ofValue "kind" entries = .ok r.kind := by
    obtain ⟨v, spelled, member⟩ := all.kind
    rw [required_of_mem distinct member, Kind.ofValue_spelled spelled]
  have name : required Param.name? "name" entries = .ok r.name :=
    required_of_mem distinct all.name Param.name?
  have label : readOr Param.note? none (entries.lookup "alias") = .ok r.label :=
    all.label.readOr_eq distinct (asText_reads _) (asText_refuses _)
  have desc : readOr Param.note? none (entries.lookup "desc") = .ok r.desc :=
    all.desc.readOr_eq distinct (asText_reads _) (asText_refuses _)
  have params := all.params.readOr_eq distinct Param.ofValue_spelled
  have returns := all.returns.readOr_eq distinct Param.ofValue_spelled Param.ofValue_refuses
  have examples : readOr Param.words? [] (entries.lookup "examples") = .ok r.examples :=
    all.examples.readOr_eq distinct (asText_reads _)
  rw [ofFields, kind, name, label, desc, params, returns, examples]
  rfl

theorem ofValue_spelled {r : Record} {v : Value} (spelled : r.Spelled v) : ofValue v = .ok r := by
  have distinct : order.Nodup := by decide
  cases spelled with
  | fields distinct all => exact ofFields_eq distinct all
  | @list items count all =>
    match items, count, all with
    | [_, _, _, _, _, _], _, all =>
      exact ofFields_eq (distinct.sublist (List.take_sublist 6 order)) all
    | [_, _, _, _, _, _, _], _, all => exact ofFields_eq distinct all

theorem entries_fields (r : Record) : r.Entries r.fields where
  kind := ⟨_, .name, by simp [fields]⟩
  name := by simp [fields]
  label := .of_lookup isText_text (by simp [fields])
  desc := .of_lookup isText_text (by simp [fields])
  params := .of_lookup Param.spelled_toValue (by simp [fields])
  returns := .of_lookup Param.spelled_toValue (by simp [fields])
  examples := .of_lookup isText_text (show _ = Option.map texts _ by simp [fields])

theorem spelled_toValue (r : Record) : r.Spelled r.toValue := by
  refine .fields (List.Nodup.sublist ?_ (show order.Nodup by decide)) r.entries_fields
  simp only [fields, List.map_append]
  exact (((((List.Sublist.refl _).append (keys_written _ _ _)).append (keys_written _ _ _)).append
    (keys_written _ _ _)).append (keys_written _ _ _)).append (keys_written _ _ _)

theorem sparse_toValue (r : Record) : r.toValue.Sparse := by
  refine ⟨r.fields, rfl, ?_⟩
  have text (s : String) : Filled (.text s) := ⟨nofun, nofun⟩
  have kind (k : Kind) : Filled k.toValue := by cases k <;> exact text _
  have param (p : Param) : Filled p.toValue := ⟨nofun, nofun⟩
  simp only [fields, List.forall_mem_append, List.forall_mem_cons]
  exact ⟨⟨⟨⟨⟨⟨kind _, text _, by simp⟩, filled_written fun s _ => text s⟩,
    filled_written fun s _ => text s⟩, filled_written (filled_items Param.toValue)⟩,
    filled_written fun p _ => param p⟩, filled_written (filled_items .text)⟩

/-- Every record is read back from the value it is written as, although neither it nor its
parameters write what is unset or empty. So is every record that was read from a value, whichever
way that value spelled it. -/
theorem values_read_again :
    (∀ r : Record, ofValue r.toValue = .ok r) ∧
      ((∀ r : Record, r.toValue.Sparse) ∧ ∀ p : Param, p.toValue.Sparse) ∧
      (∀ (r : Record) (v : Value), r.Spelled v → ofValue v = .ok r) ∧
      ∀ (v : Value) (r : Record), ofValue v = .ok r → ofValue r.toValue = .ok r :=
  ⟨fun r => ofValue_spelled r.spelled_toValue, ⟨sparse_toValue, Param.sparse_toValue⟩,
    fun _ _ => ofValue_spelled, fun _ r _ => ofValue_spelled r.spelled_toValue⟩

theorem shuffled_fields_read_again :
    let item : Param := { name := "a", optional := true, desc := some "A." }
    let r : Record := { name := "f", params := [item] }
    let v := Value.fields [("since", .int 1),
      ("params", .list [.list [.text "a", .list [], .bool true, .null, .text "A."]]),
      ("name", .text "f"), ("desc", .null), ("kind", .fields [("block", .null)])]
    r.Spelled v ∧ ofValue v = .ok r ∧ ofValue r.toValue = .ok r := by
  intro item r v
  have listed : item.Spelled (.list [.text "a", .list [], .bool true, .null, .text "A."]) :=
    .list rfl {
      name := by simp [Param.order, item]
      types := .set .nil (by simp [Param.order])
      optional := .set (by simp [Param.order, item])
      default := .null (by simp [Param.order])
      desc := .set (isText_text _) (by simp [Param.order]) }
  have spelled : r.Spelled v := .fields (by decide) {
    kind := ⟨_, .field rfl, by simp⟩
    name := by simp [r]
    label := .absent (by decide)
    desc := .null (by simp)
    params := .set (.cons listed .nil) (by simp)
    returns := .absent (by decide)
    examples := .absent (by decide) }
  obtain ⟨_, _, reads, again⟩ := values_read_again
  exact ⟨spelled, reads r v spelled, again v r (reads r v spelled)⟩

end Record

end Commentary
