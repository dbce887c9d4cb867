import Commentary.Catalog
import Commentary.Proofs.ByteOrder
import Mathlib.Data.List.Sort

/-! A catalog is known by its answers. Its entries are what `get?` returns, each key once and in
ascending order, so two catalogs with the same answers are equal as values. -/
namespace Commentary.Catalog

variable {α : Type}

theorem lookup_eq_some_iff {list : List (String × α)}
    (ascending : list.Pairwise (fun a b => a.1 < b.1)) (key : String) (value : α) :
    list.lookup key = some value ↔ (key, value) ∈ list := by
  induction list with
  | nil => simp
  | cons e rest ih =>
    obtain ⟨first, others⟩ := List.pairwise_cons.1 ascending
    rw [lookup_entry, List.mem_cons]
    by_cases h : key = e.1
    · have absent : (key, value) ∉ rest := by
        intro member
        exact String.lt_irrefl e.1 (h ▸ first _ member)
      rw [if_pos h]
      constructor
      · intro found
        exact .inl (Prod.ext h (Option.some.inj found).symm)
      · rintro (found | member)
        · rw [← found]
        · exact absurd member absent
    · have differs : (key, value) ≠ e := fun same => h (congrArg Prod.fst same)
      rw [if_neg h, ih others]
      simp [differs]

theorem get?_eq_some_iff {c : Catalog α} {key : String} {value : α} :
    c.get? key = some value ↔ (key, value) ∈ c.entries :=
  lookup_eq_some_iff c.ascending key value

theorem mem_keys_iff {c : Catalog α} {key : String} :
    key ∈ c.keys ↔ ∃ value, c.get? key = some value := by
  rw [mem_keys, contains, Option.isSome_iff_exists]

theorem not_mem_keys_iff {c : Catalog α} {key : String} : key ∉ c.keys ↔ c.get? key = none := by
  rw [mem_keys, contains, Bool.not_eq_true, Option.isSome_eq_false_iff, Option.isNone_iff_eq_none]

theorem mem_keys_insert {c : Catalog α} {key k : String} {value : α} :
    k ∈ (c.insert key value).keys ↔ k = key ∨ k ∈ c.keys := by
  simp only [mem_keys_iff, get?_insert]
  by_cases same : k = key <;> simp [same]

theorem keys_ascending (c : Catalog α) : c.keys.Pairwise (· < ·) :=
  List.pairwise_map.2 c.ascending

theorem keys_nodup (c : Catalog α) : c.keys.Nodup := by
  refine c.keys_ascending.imp ?_
  rintro key _ less rfl
  exact String.lt_irrefl key less

theorem keys_bytes_ascending (c : Catalog α) : (c.keys.map Text.bytes).Pairwise (· < ·) :=
  List.pairwise_map.2 (c.keys_ascending.imp Text.bytes_lt_iff.2)

theorem keys_eq_of_mem_iff {β : Type} {c : Catalog α} {d : Catalog β}
    (same : ∀ key, key ∈ c.keys ↔ key ∈ d.keys) : c.keys = d.keys :=
  c.keys_ascending.eq_of_mem_iff d.keys_ascending same

theorem isEmpty_iff {c : Catalog α} : c.isEmpty = true ↔ ∀ key, c.get? key = none := by
  rw [isEmpty, List.isEmpty_iff]
  constructor
  · intro empty key
    rw [get?, empty, List.lookup_nil]
  · intro silent
    apply List.eq_nil_iff_forall_not_mem.2
    intro e member
    have found : c.get? e.1 = some e.2 := get?_eq_some_iff.2 member
    rw [silent] at found
    cases found

/-- The values stand in the order of their keys. -/
theorem map_get?_keys (c : Catalog α) : c.keys.map c.get? = c.values.map some := by
  rw [keys, values, List.map_map, List.map_map]
  apply List.map_congr_left
  intro e member
  exact get?_eq_some_iff.2 member

theorem ext_get? {c d : Catalog α} (same : ∀ key, c.get? key = d.get? key) : c = d := by
  have irreflexive : Std.Irrefl (fun a b : String × α => a.1 < b.1) :=
    ⟨fun a => String.lt_irrefl a.1⟩
  have asymmetric : Std.Asymm (fun a b : String × α => a.1 < b.1) :=
    ⟨fun _ _ less => String.lt_asymm less⟩
  have entries : c.entries = d.entries := by
    apply c.ascending.eq_of_mem_iff d.ascending
    intro e
    rw [← get?_eq_some_iff (c := c), ← get?_eq_some_iff (c := d), same]
  cases c
  cases d
  cases entries
  rfl

end Commentary.Catalog
