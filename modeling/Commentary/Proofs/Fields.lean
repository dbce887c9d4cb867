import Commentary.Value
import Mathlib.Data.List.Forall2
import Mathlib.Data.List.Nodup

/-! Fields of a value. What the fields say does not depend on their order or on other fields beside
them, so it is put here in terms of the entries alone: a setting is there, it is null, or it is left
out. Reading follows these rules whatever the settings are spelled like. -/
namespace Commentary.Value

section Lookup

variable {entries : List (String × Value)} {field : String} {v : Value}

theorem lookup_of_mem (distinct : (entries.map Prod.fst).Nodup) (member : (field, v) ∈ entries) :
    entries.lookup field = some v := by
  induction entries with
  | nil => cases member
  | cons entry rest ih =>
    obtain ⟨fresh, later⟩ := List.nodup_cons.1 distinct
    rcases List.mem_cons.1 member with rfl | behind
    · exact List.lookup_cons_self
    · have other : field ≠ entry.1 := fun same =>
        fresh (List.mem_map.2 ⟨(field, v), behind, same⟩)
      rw [List.lookup_cons, beq_false_of_ne other]
      exact ih later behind

theorem mem_of_lookup (found : entries.lookup field = some v) : (field, v) ∈ entries := by
  obtain ⟨before, behind, rfl, _⟩ := List.lookup_eq_some_iff.1 found
  simp

theorem lookup_eq_none {entries : List (String × Value)} :
    entries.lookup field = none ↔ field ∉ entries.map Prod.fst := by
  rw [List.lookup_eq_none_iff]
  constructor
  · intro other member
    obtain ⟨entry, here, same⟩ := List.mem_map.1 member
    simpa [same] using other entry here
  · intro missing entry here
    have other : field ≠ entry.1 := fun same => missing (List.mem_map.2 ⟨entry, here, same.symm⟩)
    simpa using other

theorem lookup_of_perm {others : List (String × Value)} (order : entries.Perm others)
    (distinct : (others.map Prod.fst).Nodup) (field : String) :
    entries.lookup field = others.lookup field := by
  have keys : (entries.map Prod.fst).Perm (others.map Prod.fst) := order.map _
  cases found : others.lookup field with
  | none => exact lookup_eq_none.2 fun member => lookup_eq_none.1 found (keys.subset member)
  | some v =>
    have member : (field, v) ∈ entries := order.symm.subset (mem_of_lookup found)
    exact lookup_of_mem (keys.nodup_iff.2 distinct) member

theorem lookup_written {α : Type} (key field : String) (write : α → Value) (o : Option α)
    (rest : List (String × Value)) :
    (field? field write o ++ rest).lookup key =
      if key = field then (o.map write).or (rest.lookup key) else rest.lookup key := by
  cases o with
  | none => simp [field?]
  | some a =>
    by_cases here : key = field
    · simp [field?, here]
    · simp [field?, List.lookup_cons, beq_false_of_ne here, here]

theorem lookup_last_written {α : Type} (key field : String) (write : α → Value) (o : Option α) :
    (field? field write o).lookup key = if key = field then o.map write else none := by
  rw [← List.append_nil (field? field write o), lookup_written]
  simp

end Lookup

variable {α : Type} {spells : α → Value → Prop} {read : Value → Except Mismatch α}
  {entries : List (String × Value)} {field : String}

/-- How fields give what may be unset. -/
inductive Gives (spells : α → Value → Prop) (entries : List (String × Value)) (field : String) :
    Option α → Prop
  | set {a : α} {v : Value} (spelled : spells a v) (member : (field, v) ∈ entries) :
    Gives spells entries field (some a)
  | null (member : (field, .null) ∈ entries) : Gives spells entries field none
  | absent (missing : field ∉ entries.map Prod.fst) : Gives spells entries field none

/-- How fields give a list, which may be left out if it has no items. -/
inductive Lists (spells : α → Value → Prop) (entries : List (String × Value)) (field : String) :
    List α → Prop
  | set {items : List α} {values : List Value} (each : List.Forall₂ spells items values)
    (member : (field, .list values) ∈ entries) : Lists spells entries field items
  | absent (missing : field ∉ entries.map Prod.fst) : Lists spells entries field []

/-- How fields give a mark, which may be left out if it is not set. -/
inductive Marks (entries : List (String × Value)) (field : String) : Bool → Prop
  | set {b : Bool} (member : (field, .bool b) ∈ entries) : Marks entries field b
  | absent (missing : field ∉ entries.map Prod.fst) : Marks entries field false

theorem mapM_of_forall₂ (reads : ∀ a v, spells a v → read v = .ok a) {items : List α}
    {values : List Value} (each : List.Forall₂ spells items values) :
    values.mapM read = .ok items := by
  induction each with
  | nil => rfl
  | cons here _ ih =>
    rw [List.mapM_cons, reads _ _ here, ih]
    rfl

section Reading

variable (distinct : (entries.map Prod.fst).Nodup)
include distinct

theorem required_of_mem {v : Value} (member : (field, v) ∈ entries)
    (read : Value → Except Mismatch α) : required read field entries = read v := by
  rw [required, lookup_of_mem distinct member]

theorem Gives.readOr_eq (reads : ∀ a v, spells a v → read v = .ok a)
    (refuses : ∀ a, read .null ≠ .ok a) {o : Option α} (gives : Gives spells entries field o) :
    readOr (asOption read) none (entries.lookup field) = .ok o := by
  cases gives with
  | absent missing =>
    rw [lookup_eq_none.2 missing]
    rfl
  | null member =>
    rw [lookup_of_mem distinct member]
    rfl
  | @set a v spelled member =>
    have found := reads a v spelled
    rw [lookup_of_mem distinct member, readOr, asOption, found]
    · rfl
    · rintro rfl
      exact refuses a found

theorem Lists.readOr_eq (reads : ∀ a v, spells a v → read v = .ok a) {items : List α}
    (lists : Lists spells entries field items) :
    readOr (asList read) [] (entries.lookup field) = .ok items := by
  cases lists with
  | absent missing =>
    rw [lookup_eq_none.2 missing]
    rfl
  | set each member =>
    rw [lookup_of_mem distinct member]
    exact mapM_of_forall₂ reads each

theorem Marks.readOr_eq {b : Bool} (marks : Marks entries field b) :
    readOr asBool false (entries.lookup field) = .ok b := by
  cases marks with
  | absent missing =>
    rw [lookup_eq_none.2 missing]
    rfl
  | set member =>
    rw [lookup_of_mem distinct member]
    rfl

end Reading

section Writing

variable {write : α → Value} (spelled : ∀ a, spells a (write a))
include spelled

theorem Gives.of_lookup {o : Option α} (found : entries.lookup field = o.map write) :
    Gives spells entries field o := by
  cases o with
  | none => exact .absent (lookup_eq_none.1 found)
  | some a => exact .set (spelled a) (mem_of_lookup found)

theorem Lists.of_lookup {items : List α}
    (found : entries.lookup field = (nonEmpty items).map fun list => .list (list.map write)) :
    Lists spells entries field items := by
  cases items with
  | nil => exact .absent (lookup_eq_none.1 found)
  | cons item more =>
    refine .set ?_ (mem_of_lookup found)
    exact List.forall₂_map_right_iff.2 (List.forall₂_same.2 fun a _ => spelled a)

end Writing

def Filled (v : Value) : Prop :=
  v ≠ .null ∧ v ≠ .list []

/-- Nothing is written that is unset or empty. -/
def Sparse (v : Value) : Prop :=
  ∃ entries, v = .fields entries ∧ ∀ entry ∈ entries, Filled entry.2

theorem filled_written {write : α → Value} {o : Option α}
    (filled : ∀ a, o = some a → Filled (write a)) : ∀ e ∈ field? field write o, Filled e.2 := by
  cases o with
  | none => simp [field?]
  | some a => simpa [field?] using filled a rfl

theorem filled_items (write : α → Value) {items : List α} :
    ∀ list, nonEmpty items = some list → Filled (.list (list.map write)) := by
  cases items with
  | nil => exact fun _ => nofun
  | cons item more =>
    intro list written
    cases written
    exact ⟨nofun, nofun⟩

end Commentary.Value
