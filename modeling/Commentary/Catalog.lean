/-! Finite maps with texts as keys. The entries are kept in ascending order of their keys, so
maps with the same entries are the same map. -/
namespace Commentary

theorem ascending_nil (α : Type) : ([] : List (String × α)).Pairwise (fun a b => a.1 < b.1) :=
  .nil

structure Catalog (α : Type) where
  entries : List (String × α) := []
  ascending : entries.Pairwise (fun a b => a.1 < b.1) := by exact ascending_nil _

namespace Catalog

variable {α : Type}

/-- Puts an entry in its place. An entry with the same key gives way to it. -/
def put (key : String) (value : α) : List (String × α) → List (String × α)
  | [] => [(key, value)]
  | e :: rest =>
    if key < e.1 then (key, value) :: e :: rest
    else if key = e.1 then (key, value) :: rest
    else e :: put key value rest

theorem mem_put {key : String} {value : α} {x : String × α} {list : List (String × α)}
    (h : x ∈ put key value list) : x = (key, value) ∨ x ∈ list := by
  induction list with
  | nil => simpa [put] using h
  | cons e rest ih =>
    simp only [put] at h
    split at h
    · simpa using h
    · split at h
      · rcases List.mem_cons.1 h with h | h
        · exact .inl h
        · exact .inr (List.mem_cons_of_mem _ h)
      · rcases List.mem_cons.1 h with h | h
        · exact .inr (h ▸ List.mem_cons_self)
        · exact (ih h).imp id (List.mem_cons_of_mem _)

theorem lt_of_not_lt_of_ne {a b : String} (h : ¬a < b) (hne : a ≠ b) : b < a := by
  by_cases g : b < a
  · exact g
  · exact absurd (String.le_antisymm (String.not_lt.1 g) (String.not_lt.1 h)) hne

theorem ascending_put (key : String) (value : α) {list : List (String × α)}
    (h : list.Pairwise (fun a b => a.1 < b.1)) :
    (put key value list).Pairwise (fun a b => a.1 < b.1) := by
  induction list with
  | nil => simp [put]
  | cons e rest ih =>
    obtain ⟨first, others⟩ := List.pairwise_cons.1 h
    simp only [put]
    split
    · rename_i less
      refine List.pairwise_cons.2 ⟨fun x hx => ?_, h⟩
      rcases List.mem_cons.1 hx with rfl | hx
      · exact less
      · exact String.lt_trans less (first x hx)
    · rename_i notLess
      split
      · rename_i same
        exact List.pairwise_cons.2 ⟨fun x hx => same ▸ first x hx, others⟩
      · rename_i differs
        refine List.pairwise_cons.2 ⟨fun x hx => ?_, ih others⟩
        rcases mem_put hx with rfl | hx
        · exact lt_of_not_lt_of_ne notLess differs
        · exact first x hx

def insert (c : Catalog α) (key : String) (value : α) : Catalog α :=
  ⟨put key value c.entries, ascending_put key value c.ascending⟩

def erase (c : Catalog α) (key : String) : Catalog α :=
  ⟨c.entries.filter fun e => e.1 != key, c.ascending.filter _⟩

def get? (c : Catalog α) (key : String) : Option α :=
  c.entries.lookup key

def contains (c : Catalog α) (key : String) : Bool :=
  (c.get? key).isSome

def keys (c : Catalog α) : List String :=
  c.entries.map (·.1)

def values (c : Catalog α) : List α :=
  c.entries.map (·.2)

def isEmpty (c : Catalog α) : Bool :=
  c.entries.isEmpty

theorem lookup_entry (k : String) (e : String × α) (rest : List (String × α)) :
    (e :: rest).lookup k = if k = e.1 then some e.2 else rest.lookup k := by
  obtain ⟨key, value⟩ := e
  rw [List.lookup_cons]
  by_cases h : k = key
  · simp [h]
  · have differs : (k == key) = false := by simp [h]
    simp [h, differs]

theorem lookup_put (key k : String) (value : α) (list : List (String × α)) :
    (put key value list).lookup k = if k = key then some value else list.lookup k := by
  induction list with
  | nil => simp [put, lookup_entry]
  | cons e rest ih =>
    simp only [put]
    split
    · simp [lookup_entry]
    · split
      · rename_i same
        by_cases h : k = key <;> simp [lookup_entry, h, ← same]
      · rename_i differs
        by_cases h : k = e.1
        · simp [lookup_entry, h, Ne.symm differs]
        · simp [lookup_entry, h, ih]

theorem lookup_without (key k : String) (list : List (String × α)) :
    (list.filter fun e => e.1 != key).lookup k = if k = key then none else list.lookup k := by
  induction list with
  | nil => simp
  | cons e rest ih =>
    by_cases h : e.1 = key
    · have gone : (e.1 != key) = false := by simp [h]
      rw [List.filter_cons, gone, if_neg Bool.false_ne_true, ih, lookup_entry, h]
      split <;> rfl
    · have kept : (e.1 != key) = true := by simp [h]
      rw [List.filter_cons, if_pos kept, lookup_entry, lookup_entry, ih]
      by_cases g : k = e.1
      · simp [g, h]
      · simp [g]

@[simp] theorem get?_empty (k : String) : ({} : Catalog α).get? k = none := rfl

@[simp] theorem get?_insert (c : Catalog α) (key k : String) (value : α) :
    (c.insert key value).get? k = if k = key then some value else c.get? k :=
  lookup_put key k value c.entries

@[simp] theorem get?_erase (c : Catalog α) (key k : String) :
    (c.erase key).get? k = if k = key then none else c.get? k :=
  lookup_without key k c.entries

theorem mem_keys {c : Catalog α} {k : String} : k ∈ c.keys ↔ c.contains k = true := by
  simp only [keys, contains, get?]
  induction c.entries with
  | nil => simp
  | cons e rest ih => by_cases h : k = e.1 <;> simp [lookup_entry, h, ih]

end Catalog

end Commentary
