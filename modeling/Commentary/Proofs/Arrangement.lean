import Commentary.Page
import Commentary.Proofs.ByteOrder
import Mathlib.Data.List.Pairwise

/-! The order of the records on a page. Records of one kind with one name cannot be told apart by
the order, so they stay as they come; with this, the order of the page is the only one there is. -/
namespace Commentary.Page

def isShownAs (kind : Kind) (name : String) (r : Record) : Bool :=
  r.kind = kind && r.displayName = name

/-- Files come before declarations, and records of one kind in the order of the bytes of their
names. -/
def Before (a b : Record) : Prop :=
  (a.kind = .file ∧ b.kind = .block) ∨
    (a.kind = b.kind ∧ ¬ Text.bytes b.displayName < Text.bytes a.displayName)

def SameOrder (items records : List Record) : Prop :=
  ∀ kind name, items.filter (isShownAs kind name) = records.filter (isShownAs kind name)

structure Arranged (records items : List Record) : Prop where
  perm : items.Perm records
  ordered : items.Pairwise Before
  stable : SameOrder items records

/-- The alias of a file that comes first, or else the name of the module. -/
def Titled (module : String) (items : List Record) (title : String) : Prop :=
  (∃ first, items.head? = some first ∧ first.kind = .file ∧ first.label = some title) ∨
    (title = module ∧ ∀ first, items.head? = some first → first.kind = .file → first.label = none)

theorem before_iff {a b : Record} : Before a b ↔
    (a.kind = .file ∧ b.kind = .block) ∨
      (a.kind = b.kind ∧ ¬ b.displayName < a.displayName) := by
  rw [Before, Text.bytes_lt_iff]

theorem precedes_iff {a b : Record} : precedes a b = true ↔ Before a b := by
  rw [before_iff, precedes, Record.isFile, ← decide_eq_false_iff_not]
  generalize decide (b.displayName < a.displayName) = behind
  cases a.kind <;> cases b.kind <;> simp

theorem Before.trans {a b c : Record} (first : Before a b) (second : Before b c) : Before a c := by
  rw [before_iff] at first second ⊢
  rcases first with ⟨file, block⟩ | ⟨same, less⟩
  · rcases second with ⟨file', _⟩ | ⟨same', _⟩
    · rw [block] at file'
      cases file'
    · exact .inl ⟨file, same' ▸ block⟩
  · rcases second with ⟨file', block'⟩ | ⟨same', less'⟩
    · exact .inl ⟨same.trans file', block'⟩
    · rw [String.not_lt] at less less'
      exact .inr ⟨same.trans same', String.not_lt.2 (String.le_trans less less')⟩

theorem before_total (a b : Record) : Before a b ∨ Before b a := by
  have names : ¬ b.displayName < a.displayName ∨ ¬ a.displayName < b.displayName := by
    rw [String.not_lt, String.not_lt]
    exact String.le_total _ _
  rw [before_iff, before_iff]
  cases a.kind <;> cases b.kind
  · exact names.imp (fun less => .inr ⟨rfl, less⟩) (fun less => .inr ⟨rfl, less⟩)
  · exact .inl (.inl ⟨rfl, rfl⟩)
  · exact .inr (.inl ⟨rfl, rfl⟩)
  · exact names.imp (fun less => .inr ⟨rfl, less⟩) (fun less => .inr ⟨rfl, less⟩)

theorem Before.antisymm {a b : Record} (first : Before a b) (second : Before b a) :
    isShownAs a.kind a.displayName b = true := by
  rw [before_iff] at first second
  rcases first with ⟨file, block⟩ | ⟨same, less⟩
  · rcases second with ⟨_, block'⟩ | ⟨same', _⟩
    · rw [file] at block'
      cases block'
    · rw [file, block] at same'
      cases same'
  · rcases second with ⟨file', block'⟩ | ⟨_, less'⟩
    · rw [file', block'] at same
      cases same
    · rw [String.not_lt] at less less'
      simp [isShownAs, same, String.le_antisymm less less']

theorem isShownAs_self (r : Record) : isShownAs r.kind r.displayName r = true := by
  simp [isShownAs]

theorem SameOrder.mem_iff {items records : List Record} (same : SameOrder items records)
    (r : Record) : r ∈ items ↔ r ∈ records := by
  have own (list : List Record) : r ∈ list ↔ r ∈ list.filter (isShownAs r.kind r.displayName) := by
    simp [isShownAs_self]
  rw [own items, own records, same]

theorem SameOrder.tail {r : Record} {items records : List Record}
    (same : SameOrder (r :: items) (r :: records)) : SameOrder items records := by
  intro kind name
  have here := same kind name
  rw [List.filter_cons, List.filter_cons] at here
  split at here
  · exact (List.cons.inj here).2
  · exact here

/- The first of two ordered lists' heads is before the other and behind it, so both are of one kind
and name, and among these the order is the same. -/
theorem eq_of_ordered {items others : List Record} (ordered : items.Pairwise Before)
    (ordered' : others.Pairwise Before) (same : SameOrder items others) : items = others := by
  induction items generalizing others with
  | nil =>
    refine (List.eq_nil_iff_forall_not_mem.2 fun r member => ?_).symm
    exact List.not_mem_nil ((same.mem_iff r).2 member)
  | cons a items ih =>
    cases others with
    | nil => exact absurd ((same.mem_iff a).1 List.mem_cons_self) List.not_mem_nil
    | cons b others =>
      have equal : a = b := by
        rcases List.mem_cons.1 ((same.mem_iff a).1 List.mem_cons_self) with here | later
        · exact here
        rcases List.mem_cons.1 ((same.mem_iff b).2 List.mem_cons_self) with here | later'
        · exact here.symm
        have back : Before b a := List.rel_of_pairwise_cons ordered' later
        have forth : Before a b := List.rel_of_pairwise_cons ordered later'
        have heads := same a.kind a.displayName
        rw [List.filter_cons_of_pos (isShownAs_self a),
          List.filter_cons_of_pos (forth.antisymm back)] at heads
        exact (List.cons.inj heads).1
      subst equal
      rw [ih ordered.of_cons ordered'.of_cons same.tail]

theorem arranged_sorted (records : List Record) : Arranged records (sorted records) := by
  have trans (a b c : Record) (first : precedes a b = true) (second : precedes b c = true) :
      precedes a c = true :=
    precedes_iff.2 ((precedes_iff.1 first).trans (precedes_iff.1 second))
  have total (a b : Record) : (precedes a b || precedes b a) = true := by
    rw [Bool.or_eq_true, precedes_iff, precedes_iff]
    exact before_total a b
  have perm : (sorted records).Perm records := List.mergeSort_perm records precedes
  refine ⟨perm, ?_, ?_⟩
  · exact (List.pairwise_mergeSort trans total records).imp precedes_iff.1
  · intro kind name
    -- Among themselves, records of one kind and name may stand in any order.
    have alike : (records.filter (isShownAs kind name)).Pairwise (precedes · ·) := by
      refine List.pairwise_of_forall_mem_list fun a first b second => precedes_iff.2 ?_
      have shown := (List.mem_filter.1 first).2
      have shown' := (List.mem_filter.1 second).2
      simp only [isShownAs, Bool.and_eq_true, decide_eq_true_eq] at shown shown'
      rw [before_iff, shown.1, shown.2, shown'.1, shown'.2]
      exact .inr ⟨rfl, String.lt_irrefl name⟩
    have kept : (records.filter (isShownAs kind name)).Sublist (sorted records) :=
      List.sublist_mergeSort trans total alike List.filter_sublist
    have within : (records.filter (isShownAs kind name)).Sublist
        ((sorted records).filter (isShownAs kind name)) := by
      simpa using kept.filter (isShownAs kind name)
    exact (within.eq_of_length (perm.filter _).length_eq.symm).symm

theorem titled_title (module : String) (items : List Record) :
    Titled module items (title module items) := by
  cases items with
  | nil => exact .inr ⟨rfl, by simp⟩
  | cons first rest =>
    rw [title]
    cases kind : first.kind with
    | block => exact .inr ⟨by simp [Record.isFile, kind], by simp [kind]⟩
    | file =>
      cases label : first.label with
      | none => exact .inr ⟨by simp [Record.isFile, kind], by simp [label]⟩
      | some shown => exact .inl ⟨first, rfl, kind, by simp [Record.isFile, kind, label]⟩

theorem sorted_eq_of_sameOrder {records others : List Record} (same : SameOrder others records) :
    sorted others = sorted records := by
  have arranged := arranged_sorted records
  have arranged' := arranged_sorted others
  refine eq_of_ordered arranged'.ordered arranged.ordered fun kind name => ?_
  rw [arranged'.stable, same, arranged.stable]

/-- A page is its title and the blocks of all records that have one, in the one order that puts
files first, compares names by their bytes and keeps records of one kind and name as they come.
Nothing else of the order in which records come is left on the page. -/
theorem render_arranges_records (locale : Locale) (module : String) (records : List Record) :
    (∃ items title, Arranged records items ∧
      (∀ others, Arranged records others → others = items) ∧ Titled module items title ∧
      (render locale module records).content =
        "\n\n".intercalate (("# " ++ title) ::
          (items.map (block locale)).filter (· ≠ "")) ++ "\n") ∧
    ∀ others, SameOrder others records →
      render locale module others = render locale module records := by
  refine ⟨⟨sorted records, title module (sorted records), arranged_sorted records, ?_,
    titled_title module _, ?_⟩, ?_⟩
  · intro others arranged
    have same : SameOrder others (sorted records) := fun kind name => by
      rw [arranged.stable, (arranged_sorted records).stable]
    exact eq_of_ordered arranged.ordered (arranged_sorted records).ordered same
  · have filled (text : String) : (!text.isEmpty) = decide (text ≠ "") := by
      rw [Bool.eq_iff_iff]
      simp
    simp only [render, text, paragraphs, filled]
  · intro others same
    rw [render, render, text, text, sorted_eq_of_sameOrder same]

/-- Two records of one name change places with others but not with each other. -/
theorem shuffled_records_render_alike :
    let file : Record := { kind := .file, name := "z", label := some "Forms" }
    let first : Record := { name := "a", desc := some "one" }
    let second : Record := { name := "c", label := some "a", desc := some "two" }
    let last : Record := { name := "b" }
    SameOrder [first, last, file, second] [last, file, first, second] ∧
      render { } "m" [first, last, file, second] = render { } "m" [last, file, first, second] := by
  intro file first second last
  have same : SameOrder [first, last, file, second] [last, file, first, second] := by
    intro kind name
    by_cases a : "a" = name
    · subst a
      cases kind <;> decide
    · cases kind <;>
        simp [isShownAs, List.filter_cons, Record.displayName, file, first, second, last, a]
  exact ⟨same, (render_arranges_records { } "m" _).2 _ same⟩

end Commentary.Page
