import Commentary.Proofs.Ledger
import Mathlib.Data.List.Induction

/-! Marks of a store. A module whose files change is marked by the same operation, so a module
without a mark is as it was when the marks were last taken. Nothing else is marked: a mark stands
for an operation that put records into the module or took a file out of it. -/
namespace Commentary.Store

@[simp] theorem dirty_detach (s : Store) (id module m : String) :
    (s.detach id module).dirty.get? m = if m = module then some () else s.dirty.get? m := by
  simp only [detach, mark, Catalog.get?_insert]

@[simp] theorem dirty_attach (s : Store) (id module m : String) (records : List Record) :
    (s.attach id module records).dirty.get? m =
      if m = module then some () else s.dirty.get? m := by
  simp only [attach, mark, Catalog.get?_insert]

/-- What has no mark in the later store had none in the earlier one and has not changed. -/
def MarksChanges (s t : Store) : Prop :=
  ∀ m, t.dirty.get? m = none → s.dirty.get? m = none ∧ t.bucket? m = s.bucket? m

namespace MarksChanges

theorem refl (s : Store) : MarksChanges s s :=
  fun _ clean => ⟨clean, rfl⟩

theorem trans {s t u : Store} (first : MarksChanges s t) (second : MarksChanges t u) :
    MarksChanges s u := by
  intro m clean
  obtain ⟨between, later⟩ := second m clean
  obtain ⟨before, earlier⟩ := first m between
  exact ⟨before, later.trans earlier⟩

theorem detach (s : Store) (id module : String) : MarksChanges s (s.detach id module) := by
  intro m clean
  rw [dirty_detach] at clean
  by_cases here : m = module
  · simp [here] at clean
  · rw [bucket?_detach, if_neg here]
    exact ⟨by simpa [here] using clean, rfl⟩

theorem attach (s : Store) (id module : String) (records : List Record) :
    MarksChanges s (s.attach id module records) := by
  intro m clean
  rw [dirty_attach] at clean
  by_cases here : m = module
  · simp [here] at clean
  · rw [bucket?_attach, if_neg here]
    exact ⟨by simpa [here] using clean, rfl⟩

theorem remove (s : Store) (id : String) : MarksChanges s (s.remove id) := by
  unfold Store.remove
  split
  · exact detach s id _
  · exact refl s

theorem release (s : Store) (id module : String) : MarksChanges s (s.release id module) := by
  unfold Store.release
  split
  · split
    · exact refl s
    · exact detach s id _
  · exact refl s

theorem upsert (s : Store) (id module : String) (records : List Record) :
    MarksChanges s (s.upsert id module records) := by
  unfold Store.upsert
  split
  · exact remove s id
  · exact (release s id module).trans (attach _ id module records)

end MarksChanges

/-- Whether an operation puts records into a module, or takes a file out of it that the module has
at that moment. -/
def Touches (s : Store) (m : String) : Operation → Prop
  | .upsert id module records =>
    (records ≠ [] ∧ module = m) ∨ (s.moduleOf id = some m ∧ (records = [] ∨ module ≠ m))
  | .remove id => s.moduleOf id = some m
  | .takeDirty => False

theorem remove_of_unknown {s : Store} {id : String} (unknown : s.moduleOf id = none) :
    s.remove id = s := by
  rw [remove, unknown]

theorem upsert_nil (s : Store) (id module : String) : s.upsert id module [] = s.remove id := rfl

theorem mem_dirty_detach (s : Store) (id module m : String) :
    m ∈ (s.detach id module).dirty.keys ↔ m = module ∨ m ∈ s.dirty.keys :=
  Catalog.mem_keys_insert

theorem mem_dirty_attach (s : Store) (id module m : String) (records : List Record) :
    m ∈ (s.attach id module records).dirty.keys ↔ m = module ∨ m ∈ s.dirty.keys :=
  Catalog.mem_keys_insert

theorem mem_dirty_remove (s : Store) (id m : String) :
    m ∈ (s.remove id).dirty.keys ↔ m ∈ s.dirty.keys ∨ s.moduleOf id = some m := by
  unfold remove
  cases s.moduleOf id with
  | none => simp
  | some module => grind [mem_dirty_detach]

theorem mem_dirty_release (s : Store) (id module m : String) :
    m ∈ (s.release id module).dirty.keys ↔
      m ∈ s.dirty.keys ∨ (s.moduleOf id = some m ∧ module ≠ m) := by
  unfold release
  cases s.moduleOf id with
  | none => simp
  | some previous => by_cases stays : previous = module <;> grind [mem_dirty_detach]

theorem mem_dirty_perform (s : Store) (o : Operation) (m : String) :
    m ∈ (s.perform o).dirty.keys ↔ (o ≠ .takeDirty ∧ m ∈ s.dirty.keys) ∨ s.Touches m o := by
  cases o with
  | upsert id module records =>
    cases records with
    | nil => simp [perform, upsert_nil, mem_dirty_remove, Touches]
    | cons r rest =>
      have both : (s.upsert id module (r :: rest)) =
          (s.release id module).attach id module (r :: rest) := rfl
      simp only [perform, both, mem_dirty_attach, mem_dirty_release, Touches]
      grind
  | remove id => simp [perform, mem_dirty_remove, Touches]
  | takeDirty => simp [perform, takeDirty, Touches, Catalog.keys]

/- The induction is on the last operation: it adds a mark of its own, and keeps or takes away those
that stood before it. -/
theorem mem_dirty_run (operations : List Operation) (m : String) :
    m ∈ (operations.foldl perform {}).dirty.keys ↔
      ∃ earlier o later, operations = earlier ++ o :: later ∧ Operation.takeDirty ∉ later ∧
        (earlier.foldl perform {}).Touches m o := by
  induction operations using List.reverseRecOn with
  | nil => simp [Catalog.keys]
  | append_singleton operations last ih =>
    rw [List.foldl_append, List.foldl_cons, List.foldl_nil, mem_dirty_perform, ih]
    constructor
    · rintro (⟨kept, earlier, o, later, rfl, untaken, touched⟩ | touched)
      · exact ⟨earlier, o, later ++ [last], by simp, by simp [untaken, kept.symm], touched⟩
      · exact ⟨operations, last, [], rfl, List.not_mem_nil, touched⟩
    · rintro ⟨earlier, o, later, split, untaken, touched⟩
      rcases List.eq_nil_or_concat' later with rfl | ⟨middle, final, rfl⟩
      · obtain ⟨rfl, rfl⟩ := List.append_inj' split rfl |>.imp_right List.singleton_inj.1
        exact .inr touched
      · rw [← List.cons_append, ← List.append_assoc] at split
        obtain ⟨rfl, rfl⟩ := List.append_inj' split rfl |>.imp_right List.singleton_inj.1
        simp only [List.mem_append, List.mem_singleton, not_or] at untaken
        exact .inl ⟨Ne.symm untaken.2, earlier, o, middle, rfl, untaken.1, touched⟩

theorem MarksChanges.perform (s : Store) {o : Operation} (change : o ≠ .takeDirty) :
    MarksChanges s (s.perform o) := by
  cases o with
  | upsert id module records => exact upsert s id module records
  | remove id => exact remove s id
  | takeDirty => exact absurd rfl change

theorem MarksChanges.run (operations : List Operation) (untaken : .takeDirty ∉ operations)
    (s : Store) : MarksChanges s (operations.foldl Store.perform s) := by
  induction operations generalizing s with
  | nil => exact refl s
  | cons o rest ih =>
    rw [List.mem_cons, not_or] at untaken
    exact (perform s (Ne.symm untaken.1)).trans (ih untaken.2 _)

/-- In whatever way a store has come about, its marks are those of the modules touched since marks
were last taken. A module that is no longer what it was at any moment since then has a mark, and
taking out a file that no module has changes nothing at all. Taking the marks lists them in the
order of their bytes, each once, and changes nothing else. -/
theorem dirty_exactly_touched (operations : List Operation) :
    let s := operations.foldl perform {}
    (∀ m, m ∈ s.dirty.keys ↔
      ∃ earlier o later, operations = earlier ++ o :: later ∧ .takeDirty ∉ later ∧
        (earlier.foldl perform {}).Touches m o) ∧
    (∀ m earlier later, operations = earlier ++ later → .takeDirty ∉ later →
      s.bucket? m ≠ (earlier.foldl perform {}).bucket? m → m ∈ s.dirty.keys) ∧
    (∀ id, s.moduleOf id = none → s.remove id = s ∧ ∀ module, s.upsert id module [] = s) ∧
    (s.takeDirty.1.map Text.bytes).Pairwise (· < ·) ∧
    (∀ m, m ∈ s.takeDirty.1 ↔ m ∈ s.dirty.keys) ∧
    s.takeDirty.2.dirty = {} ∧ s.takeDirty.2.modules = s.modules ∧
    s.takeDirty.2.owners = s.owners := by
  intro s
  refine ⟨mem_dirty_run operations, ?_, ?_, s.dirty.keys_bytes_ascending, fun _ => Iff.rfl, rfl,
    rfl, rfl⟩
  · intro m earlier later split untaken changed
    by_contra unmarked
    have marks : MarksChanges (earlier.foldl perform {}) s := by
      show MarksChanges _ (operations.foldl perform {})
      rw [split, List.foldl_append]
      exact MarksChanges.run later untaken _
    exact changed (marks m (Catalog.not_mem_keys_iff.1 unmarked)).2
  · intro id unknown
    exact ⟨remove_of_unknown unknown, fun _ => remove_of_unknown unknown⟩

/-- A file moves to another module after the marks were taken, and an unknown one is removed. -/
theorem moved_file_marks_both :
    let before : List Operation := [.upsert "a" "m" [{ name := "f" }], .takeDirty]
    let since : List Operation := [.upsert "a" "n" [{ name := "f" }], .remove "b"]
    let s := (before ++ since).foldl perform {}
    Operation.takeDirty ∉ since ∧ s.bucket? "m" ≠ (before.foldl perform {}).bucket? "m" ∧
      "m" ∈ s.dirty.keys ∧ "n" ∈ s.dirty.keys ∧ s.moduleOf "b" = none ∧ s.remove "b" = s := by
  intro before since s
  have untaken : Operation.takeDirty ∉ since := by simp [since]
  have changed : s.bucket? "m" ≠ (before.foldl perform {}).bucket? "m" := by
    intro same
    have present : (s.bucket? "m").isSome = ((before.foldl perform {}).bucket? "m").isSome :=
      congrArg Option.isSome same
    revert present
    decide +kernel
  have unknown : s.moduleOf "b" = none := by decide +kernel
  obtain ⟨touched, differs, silent, _⟩ := dirty_exactly_touched (before ++ since)
  have filled : "n" ∈ s.dirty.keys :=
    (touched "n").2 ⟨before, _, [.remove "b"], rfl, by simp, .inl ⟨by simp, rfl⟩⟩
  exact ⟨untaken, changed, differs "m" before since rfl untaken changed, filled, unknown,
    (silent "b" unknown).1⟩

end Commentary.Store
