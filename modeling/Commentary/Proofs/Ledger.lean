import Commentary.Proofs.Catalog
import Commentary.Store
import Mathlib.Logic.Function.Basic

/-! A store keeps two indexes, of the files by module and of the modules by file. Here both are
compared with a ledger, which only knows the module and the records of each file. The ledger is
not derived from the indexes: it is changed entry by entry along with the store. -/
namespace Commentary

/-- The module and the records of each file that has any. -/
abbrev Ledger := String → Option (String × List Record)

namespace Ledger

def empty : Ledger := fun _ => none

/-- Without records there is no entry. -/
def enter (l : Ledger) (id module : String) (records : List Record) : Ledger :=
  Function.update l id (if records = [] then none else some (module, records))

def strike (l : Ledger) (id : String) : Ledger :=
  Function.update l id none

def recordsOf (l : Ledger) (id : String) : List Record :=
  ((l id).map Prod.snd).getD []

theorem enter_nil (l : Ledger) (id module : String) : l.enter id module [] = l.strike id := by
  rw [enter, if_pos rfl, strike]

theorem enter_strike (l : Ledger) (id module : String) (records : List Record) :
    (l.strike id).enter id module records = l.enter id module records := by
  rw [enter, strike, Function.update_idem, enter]

theorem strike_of_absent {l : Ledger} {id : String} (absent : l id = none) : l.strike id = l := by
  rw [strike, ← absent, Function.update_eq_self]

end Ledger

namespace Bucket

theorem size_eq_length (b : Bucket) : b.size = b.records.length := by
  rw [records, List.length_flatten, List.sum, List.foldr_map]
  rfl

/-- The records follow the order of the files. -/
theorem records_eq_flatMap (b : Bucket) :
    b.records = b.fileIds.flatMap fun id => (b.get? id).getD [] := by
  have order : b.keys.map b.get? = b.values.map some := b.map_get?_keys
  have values : b.values = b.keys.map fun id => (b.get? id).getD [] := by
    simpa [List.map_map, Function.comp_def] using
      (congrArg (List.map fun found => Option.getD found []) order).symm
  rw [records, values, ← List.flatMap_def, fileIds]

end Bucket

namespace Store

/-- What a file contributes to a module, by the index of the modules. -/
def records? (s : Store) (module id : String) : Option (List Record) :=
  (s.bucket? module).bind fun b => b.get? id

theorem bucket?_detach (s : Store) (id module m : String) :
    (s.detach id module).bucket? m =
      if m = module then ((s.bucket? module).map (·.erase id)).filter (!·.isEmpty)
      else s.bucket? m := by
  simp only [detach, mark, bucket?, without]
  cases found : s.modules.get? module with
  | none => by_cases h : m = module <;> simp [h, found]
  | some b =>
    cases empty : (b.erase id).isEmpty <;>
      by_cases h : m = module <;> simp [h, empty, Option.filter_some]

theorem bucket?_attach (s : Store) (id module m : String) (records : List Record) :
    (s.attach id module records).bucket? m =
      if m = module then some (((s.bucket? module).getD {}).insert id records)
      else s.bucket? m := by
  simp only [attach, mark, bucket?, Catalog.get?_insert]

@[simp] theorem moduleOf_detach (s : Store) (id module x : String) :
    (s.detach id module).moduleOf x = if x = id then none else s.moduleOf x := by
  simp only [detach, mark, moduleOf, Catalog.get?_erase]

@[simp] theorem moduleOf_attach (s : Store) (id module x : String) (records : List Record) :
    (s.attach id module records).moduleOf x = if x = id then some module else s.moduleOf x := by
  simp only [attach, mark, moduleOf, Catalog.get?_insert]

@[simp] theorem records?_detach (s : Store) (id module m x : String) :
    (s.detach id module).records? m x =
      if m = module ∧ x = id then none else s.records? m x := by
  rw [records?, records?, bucket?_detach]
  by_cases here : m = module
  · subst here
    cases s.bucket? m with
    | none => simp
    | some b =>
      cases empty : (b.erase id).isEmpty with
      | false => simp [empty, Option.filter_some]
      | true =>
        have silent := Catalog.isEmpty_iff.1 empty x
        rw [Catalog.get?_erase] at silent
        simp [empty, Option.filter_some, silent]
  · simp [here]

@[simp] theorem records?_attach (s : Store) (id module m x : String) (records : List Record) :
    (s.attach id module records).records? m x =
      if m = module ∧ x = id then some records else s.records? m x := by
  rw [records?, records?, bucket?_attach]
  by_cases here : m = module
  · subst here
    cases s.bucket? m <;> simp
  · simp [here]

/-- A module that is there has a file. -/
def Filled (s : Store) : Prop :=
  ∀ m b, s.bucket? m = some b → b.isEmpty = false

theorem Filled.detach {s : Store} (filled : s.Filled) (id module : String) :
    (s.detach id module).Filled := by
  intro m b found
  rw [bucket?_detach] at found
  split at found
  · obtain ⟨_, kept⟩ := Option.filter_eq_some_iff.1 found
    simpa using kept
  · exact filled m b found

theorem Filled.attach {s : Store} (filled : s.Filled) (id module : String)
    (records : List Record) : (s.attach id module records).Filled := by
  intro m b found
  rw [bucket?_attach] at found
  split at found
  · cases Option.some.inj found
    apply Bool.eq_false_iff.2
    intro empty
    have silent := Catalog.isEmpty_iff.1 empty id
    simp at silent
  · exact filled m b found

/-- The store says what the ledger says, through both of its indexes. -/
structure Represents (s : Store) (l : Ledger) : Prop where
  owners : ∀ id, s.moduleOf id = (l id).map Prod.fst
  files : ∀ m id records, s.records? m id = some records ↔ l id = some (m, records)
  filled : s.Filled
  nonempty : ∀ id m records, l id = some (m, records) → records ≠ []

theorem represents_empty : Represents {} Ledger.empty := by
  constructor
  · intro id
    rfl
  · intro m id records
    constructor <;> intro found <;> cases found
  · intro m b found
    cases found
  · intro id m records found
    cases found

namespace Represents

variable {s : Store} {l : Ledger}

/-- The index of the modules has a file only where the other index says it is. -/
theorem records?_eq_none (agrees : s.Represents l) {m id : String}
    (elsewhere : s.moduleOf id ≠ some m) : s.records? m id = none := by
  apply Option.eq_none_iff_forall_not_mem.2
  intro records member
  apply elsewhere
  rw [agrees.owners, (agrees.files m id records).1 member]
  rfl

/-- Stores with the same entry for a file answer alike about it, whatever else they hold. -/
theorem agree_on (agrees : s.Represents l) {t : Store} {k : Ledger} (also : t.Represents k)
    {id : String} (same : l id = k id) :
    s.moduleOf id = t.moduleOf id ∧ ∀ m, s.records? m id = t.records? m id := by
  constructor
  · rw [agrees.owners, also.owners, same]
  · intro m
    apply Option.ext
    intro records
    rw [agrees.files, also.files, same]

theorem detach (agrees : s.Represents l) {id module : String}
    (owner : s.moduleOf id = some module) : (s.detach id module).Represents (l.strike id) := by
  constructor
  · intro x
    rw [moduleOf_detach]
    by_cases same : x = id
    · simp [same, Ledger.strike]
    · simp [same, Ledger.strike, agrees.owners]
  · intro m x records
    rw [records?_detach]
    by_cases same : x = id
    · subst same
      by_cases here : m = module
      · simp [here, Ledger.strike]
      · have elsewhere : s.records? m x = none :=
          agrees.records?_eq_none fun owned => here (Option.some.inj (owned.symm.trans owner))
        simp [here, Ledger.strike, elsewhere]
    · simp [same, Ledger.strike, agrees.files]
  · exact agrees.filled.detach id module
  · intro x m records found
    by_cases same : x = id
    · simp [same, Ledger.strike] at found
    · exact agrees.nonempty x m records (by simpa [same, Ledger.strike] using found)

theorem attach (agrees : s.Represents l) {id module : String} {records : List Record}
    (free : ∀ m old, l id = some (m, old) → m = module) (some_records : records ≠ []) :
    (s.attach id module records).Represents (l.enter id module records) := by
  constructor
  · intro x
    rw [moduleOf_attach]
    by_cases same : x = id
    · simp [same, Ledger.enter, some_records]
    · simp [same, Ledger.enter, agrees.owners]
  · intro m x found
    rw [records?_attach]
    by_cases same : x = id
    · subst same
      by_cases here : m = module
      · simp [here, Ledger.enter, some_records]
      · have elsewhere : s.records? m x ≠ some found := by
          intro member
          exact here (free m found ((agrees.files m x found).1 member))
        simp [here, Ledger.enter, some_records, elsewhere, Ne.symm here]
    · simp [same, Ledger.enter, agrees.files]
  · exact agrees.filled.attach id module records
  · intro x m found entry
    by_cases same : x = id
    · simp only [same, Ledger.enter, Function.update_self, if_neg some_records,
        Option.some.injEq, Prod.mk.injEq] at entry
      exact entry.2 ▸ some_records
    · exact agrees.nonempty x m found (by simpa [same, Ledger.enter] using entry)

theorem remove (agrees : s.Represents l) (id : String) :
    (s.remove id).Represents (l.strike id) := by
  rw [Store.remove]
  cases owner : s.moduleOf id with
  | some module => exact agrees.detach owner
  | none =>
    have absent : l id = none := by simpa [agrees.owners] using owner
    rw [Ledger.strike_of_absent absent]
    exact agrees

/-- A file that is to enter a module has left every other one. -/
theorem release (agrees : s.Represents l) (id module : String) :
    ∃ room : Ledger, (s.release id module).Represents room ∧
      (∀ m old, room id = some (m, old) → m = module) ∧
      ∀ records, room.enter id module records = l.enter id module records := by
  rw [Store.release]
  cases owner : s.moduleOf id with
  | none =>
    have absent : l id = none := by simpa [agrees.owners] using owner
    refine ⟨l, agrees, ?_, fun _ => rfl⟩
    intro m old entry
    rw [absent] at entry
    cases entry
  | some previous =>
    by_cases stays : previous = module
    · refine ⟨l, by simpa [stays] using agrees, ?_, fun _ => rfl⟩
      intro m old entry
      rw [agrees.owners, entry] at owner
      exact (Option.some.inj owner).trans stays
    · refine ⟨l.strike id, by simpa [stays] using agrees.detach owner, ?_, ?_⟩
      · intro m old entry
        simp [Ledger.strike] at entry
      · exact l.enter_strike id module

theorem upsert (agrees : s.Represents l) (id module : String) (records : List Record) :
    (s.upsert id module records).Represents (l.enter id module records) := by
  cases records with
  | nil =>
    rw [Ledger.enter_nil]
    exact agrees.remove id
  | cons r rest =>
    obtain ⟨room, released, free, entered⟩ := agrees.release id module
    rw [← entered]
    exact released.attach free (List.cons_ne_nil r rest)

/-- Marks are not part of what a store says. -/
theorem takeDirty (agrees : s.Represents l) : s.takeDirty.2.Represents l :=
  ⟨agrees.owners, agrees.files, agrees.filled, agrees.nonempty⟩

theorem bucket_isSome (agrees : s.Represents l) (m : String) :
    (s.bucket? m).isSome ↔ ∃ id records, l id = some (m, records) := by
  constructor
  · intro present
    obtain ⟨b, found⟩ := Option.isSome_iff_exists.1 present
    have some_file : ¬ ∀ id, b.get? id = none := by
      rw [← Catalog.isEmpty_iff, agrees.filled m b found]
      exact Bool.false_ne_true
    obtain ⟨id, kept⟩ := not_forall.1 some_file
    obtain ⟨records, member⟩ := Option.ne_none_iff_exists'.1 kept
    exact ⟨id, records, (agrees.files m id records).1 (by rw [records?, found]; exact member)⟩
  · rintro ⟨id, records, entry⟩
    obtain ⟨b, found, _⟩ := Option.bind_eq_some_iff.1 ((agrees.files m id records).2 entry)
    exact Option.isSome_iff_exists.2 ⟨b, found⟩

theorem mem_moduleNames (agrees : s.Represents l) (m : String) :
    m ∈ s.moduleNames ↔ ∃ id records, l id = some (m, records) := by
  rw [← agrees.bucket_isSome, moduleNames, Catalog.mem_keys]
  exact Iff.rfl

theorem get?_bucket (agrees : s.Represents l) {m : String} {b : Bucket}
    (found : s.bucket? m = some b) (id : String) (records : List Record) :
    b.get? id = some records ↔ l id = some (m, records) := by
  rw [← agrees.files, records?, found]
  exact Iff.rfl

theorem mem_fileIds (agrees : s.Represents l) {m : String} {b : Bucket}
    (found : s.bucket? m = some b) (id : String) :
    id ∈ b.fileIds ↔ ∃ records, l id = some (m, records) := by
  rw [Bucket.fileIds, Catalog.mem_keys_iff]
  exact exists_congr (agrees.get?_bucket found id)

theorem records_bucket (agrees : s.Represents l) {m : String} {b : Bucket}
    (found : s.bucket? m = some b) : b.records = b.fileIds.flatMap l.recordsOf := by
  rw [b.records_eq_flatMap]
  apply List.flatMap_congr
  intro id member
  obtain ⟨records, entry⟩ := (agrees.mem_fileIds found id).1 member
  rw [(agrees.get?_bucket found id records).2 entry, Ledger.recordsOf, entry]
  rfl

theorem bucket_not_blank (agrees : s.Represents l) {m : String} {b : Bucket}
    (found : s.bucket? m = some b) : b.isBlank = false := by
  obtain ⟨id, records, entry⟩ :=
    (agrees.bucket_isSome m).1 (Option.isSome_iff_exists.2 ⟨b, found⟩)
  obtain ⟨r, rest, shape⟩ := List.exists_cons_of_ne_nil (agrees.nonempty id m records entry)
  have member : r ∈ b.records := by
    rw [agrees.records_bucket found]
    refine List.mem_flatMap.2 ⟨id, (agrees.mem_fileIds found id).2 ⟨records, entry⟩, ?_⟩
    simp [Ledger.recordsOf, entry, shape]
  have positive : 0 < b.size := by
    rw [b.size_eq_length]
    exact List.length_pos_of_mem member
  rw [Bucket.isBlank, beq_eq_false_iff_ne]
  omega

theorem isEmpty_iff (agrees : s.Represents l) : s.isEmpty = true ↔ ∀ id, l id = none := by
  rw [Store.isEmpty, Catalog.isEmpty_iff]
  constructor
  · intro silent id
    cases entry : l id with
    | none => rfl
    | some e =>
      have present := (agrees.bucket_isSome e.1).2 ⟨id, e.2, entry⟩
      rw [bucket?, silent] at present
      cases present
  · intro absent m
    apply Option.not_isSome_iff_eq_none.1
    intro present
    obtain ⟨id, records, entry⟩ := (agrees.bucket_isSome m).1 present
    rw [absent] at entry
    cases entry

end Represents

/-- What is done to a store. -/
inductive Operation where
  | upsert (id module : String) (records : List Record)
  | remove (id : String)
  | takeDirty

def perform (s : Store) : Operation → Store
  | .upsert id module records => s.upsert id module records
  | .remove id => s.remove id
  | .takeDirty => s.takeDirty.2

end Store

def Ledger.perform (l : Ledger) : Store.Operation → Ledger
  | .upsert id module records => l.enter id module records
  | .remove id => l.strike id
  | .takeDirty => l

namespace Store

theorem Represents.perform {s : Store} {l : Ledger} (agrees : s.Represents l) (o : Operation) :
    (s.perform o).Represents (l.perform o) := by
  cases o with
  | upsert id module records => exact agrees.upsert id module records
  | remove id => exact agrees.remove id
  | takeDirty => exact agrees.takeDirty

theorem represents_run (operations : List Operation) {s : Store} {l : Ledger}
    (agrees : s.Represents l) :
    (operations.foldl Store.perform s).Represents (operations.foldl Ledger.perform l) := by
  induction operations generalizing s l with
  | nil => exact agrees
  | cons o rest ih => exact ih (agrees.perform o)

/-- After any operations on an empty store, all that can be asked of it is answered by the
ledger that went through the same operations. -/
theorem run_refines_ledger (operations : List Operation) :
    let s := operations.foldl Store.perform {}
    let l := operations.foldl Ledger.perform Ledger.empty
    (∀ id, s.moduleOf id = (l id).map Prod.fst) ∧
    (s.moduleNames.map Text.bytes).Pairwise (· < ·) ∧
    (∀ m, m ∈ s.moduleNames ↔ ∃ id records, l id = some (m, records)) ∧
    (∀ m, (s.bucket? m).isSome ↔ ∃ id records, l id = some (m, records)) ∧
    (∀ m b, s.bucket? m = some b →
      (b.fileIds.map Text.bytes).Pairwise (· < ·) ∧
      (∀ id, id ∈ b.fileIds ↔ ∃ records, l id = some (m, records)) ∧
      b.records = b.fileIds.flatMap l.recordsOf ∧
      b.size = b.records.length ∧
      b.isBlank = false) ∧
    (∀ m b n c id, s.bucket? m = some b → s.bucket? n = some c →
      id ∈ b.fileIds → id ∈ c.fileIds → m = n) ∧
    (s.isEmpty = true ↔ ∀ id, l id = none) := by
  intro s l
  have agrees : s.Represents l := represents_run operations represents_empty
  refine ⟨agrees.owners, s.modules.keys_bytes_ascending, agrees.mem_moduleNames,
    agrees.bucket_isSome, ?_, ?_, agrees.isEmpty_iff⟩
  · intro m b found
    exact ⟨b.keys_bytes_ascending, agrees.mem_fileIds found, agrees.records_bucket found,
      b.size_eq_length, agrees.bucket_not_blank found⟩
  · intro m b n c id inM inN first second
    obtain ⟨records, entry⟩ := (agrees.mem_fileIds inM id).1 first
    obtain ⟨others, again⟩ := (agrees.mem_fileIds inN id).1 second
    rw [entry] at again
    exact congrArg Prod.fst (Option.some.inj again)

end Store

end Commentary
