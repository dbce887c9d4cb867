import Commentary.Proofs.Publication

/-! Reports of a flush. A report is compared with the shelves before and after the flush, not with
the branches that were taken: it lists the modules whose documents differ, and of the marked ones
with files those whose documents do not. Doing nothing and saying so would meet that, so what
becomes of the documents of marked modules is stated beside it. All of this holds of every site,
whatever its shelf holds. The modules of a flush are distinct, so what becomes of a document is
decided by the step of its own module, and the steps of the others leave it alone. -/
namespace Commentary

/-- A document that was not there before, or had another fingerprint or other files. -/
def Document.Renews (old new : Option Document) : Prop :=
  ∃ d, new = some d ∧
    ∀ o, old = some o → o.fingerprint ≠ d.fingerprint ∨ o.sources ≠ d.sources

instance (old new : Option Document) : Decidable (Document.Renews old new) :=
  decidable_of_iff (∃ d ∈ new, ∀ o ∈ old, o.fingerprint ≠ d.fingerprint ∨ o.sources ≠ d.sources)
    Iff.rfl

theorem Document.not_renews_self (document : Option Document) :
    ¬ Document.Renews document document := by
  rintro ⟨d, here, differs⟩
  rcases differs d here with fingerprint | sources
  · exact fingerprint rfl
  · exact sources rfl

/-- How the document of a module follows its files: it is dropped with the last of them, kept as
long as its fingerprint and its files are right, and made anew otherwise. -/
def Document.Follows (locale : Locale) (module : String) (old : Option Document) :
    Option Bucket → Option Document → Prop
  | none, new => new = none
  | some b, new =>
    ∃ d, new = some d ∧ d.sources = b.fileIds ∧
      d.fingerprint = (Page.render locale module b.records).fingerprint ∧
      (old = some d ∨ d = .ofPage module (Page.render locale module b.records) b.fileIds)

namespace Report

/-- The modules of a list by the difference between two shelves. -/
def between (store : Store) (modules : List String) (before after : Shelf) : Report where
  written := modules.filter fun m => Document.Renews (before.document? m) (after.document? m)
  unchanged := modules.filter fun m =>
    (store.bucket? m).isSome ∧ ∃ d ∈ before.document? m, after.document? m = some d
  deleted := modules.filter fun m => (before.document? m).isSome ∧ after.document? m = none

theorem merge_assoc (r q p : Report) : (r.merge q).merge p = r.merge (q.merge p) := by
  simp [merge]

theorem merge_empty (r : Report) : r.merge {} = r := by
  simp [merge]

theorem between_append (store : Store) (modules others : List String) (before after : Shelf) :
    between store (modules ++ others) before after =
      (between store modules before after).merge (between store others before after) := by
  simp [between, merge]

theorem between_congr (store : Store) {modules : List String} {s t s' t' : Shelf}
    (before : ∀ m ∈ modules, s.document? m = s'.document? m)
    (after : ∀ m ∈ modules, t.document? m = t'.document? m) :
    between store modules s t = between store modules s' t' := by
  simp only [between, Report.mk.injEq]
  refine ⟨List.filter_congr ?_, List.filter_congr ?_, List.filter_congr ?_⟩ <;>
    intro m member <;> rw [before m member, after m member]

end Report

namespace Site

theorem renews_of_stale {shelf : Shelf} {module : String} {page : Page} {sources : List String}
    (stale : isCurrent shelf module page sources = false) :
    Document.Renews (shelf.document? module) (some (.ofPage module page sources)) := by
  refine ⟨_, rfl, fun old document => ?_⟩
  by_contra same
  rw [not_or, not_not, not_not] at same
  have current : isCurrent shelf module page sources = true :=
    isCurrent_iff.2 ⟨old, document, same⟩
  rw [stale] at current
  cases current

/-- A run of steps that brings documents up to date, reports the difference it makes on a shelf,
and counts it. -/
structure Accounts (locale : Locale) (store : Store) (modules : List String)
    (state last : Shelf × Report) : Prop where
  report : last.2 = state.2.merge (.between store modules state.1 last.1)
  follows : ∀ m ∈ modules,
    Document.Follows locale m (state.1.document? m) (store.bucket? m) (last.1.document? m)
  others : ∀ m, m ∉ modules → last.1.document? m = state.1.document? m
  writes : last.1.writes = state.1.writes +
    (Report.between store modules state.1 last.1).written.length
  deletes : last.1.deletes = state.1.deletes +
    (Report.between store modules state.1 last.1).deleted.length

namespace Accounts

variable {locale : Locale} {store : Store}

theorem refl (state : Shelf × Report) : Accounts locale store [] state state :=
  ⟨state.2.merge_empty.symm, List.forall_mem_nil _, fun _ _ => rfl, rfl, rfl⟩

theorem trans {modules others : List String} {state middle last : Shelf × Report}
    (first : Accounts locale store modules state middle)
    (second : Accounts locale store others middle last) (apart : ∀ m ∈ modules, m ∉ others) :
    Accounts locale store (modules ++ others) state last := by
  -- Each run sees only what the other one leaves alone.
  have kept : ∀ m ∈ modules, last.1.document? m = middle.1.document? m :=
    fun m member => second.others m (apart m member)
  have untouched : ∀ m ∈ others, state.1.document? m = middle.1.document? m :=
    fun m member => (first.others m fun here => apart m here member).symm
  have early : Report.between store modules state.1 last.1 =
      .between store modules state.1 middle.1 :=
    Report.between_congr store (fun _ _ => rfl) kept
  have late : Report.between store others state.1 last.1 =
      .between store others middle.1 last.1 :=
    Report.between_congr store untouched fun _ _ => rfl
  have whole := Report.between_append store modules others state.1 last.1
  rw [early, late] at whole
  constructor
  · rw [whole, second.report, first.report, Report.merge_assoc]
  · intro m member
    rcases List.mem_append.1 member with here | there
    · rw [kept m here]
      exact first.follows m here
    · rw [untouched m there]
      exact second.follows m there
  · intro m outside
    rw [List.mem_append, not_or] at outside
    rw [second.others m outside.2, first.others m outside.1]
  · rw [whole, second.writes, first.writes, Report.merge, List.length_append, Nat.add_assoc]
  · rw [whole, second.deletes, first.deletes, Report.merge, List.length_append, Nat.add_assoc]

theorem of_difference {modules : List String} {state last : Shelf × Report} {r : Report}
    (difference : Report.between store modules state.1 last.1 = r)
    (report : last.2 = state.2.merge r)
    (follows : ∀ m ∈ modules,
      Document.Follows locale m (state.1.document? m) (store.bucket? m) (last.1.document? m))
    (others : ∀ m, m ∉ modules → last.1.document? m = state.1.document? m)
    (writes : last.1.writes = state.1.writes + r.written.length)
    (deletes : last.1.deletes = state.1.deletes + r.deleted.length) :
    Accounts locale store modules state last := by
  subst difference
  exact ⟨report, follows, others, writes, deletes⟩

/- One case for each branch: no files and no document, no files but a document, a document that is
right, and one that is not. -/
theorem publish (locale : Locale) (shelf : Shelf) (report : Report) (m : String) :
    Accounts locale store [m] (shelf, report)
      (Site.publish locale store (shelf, report) m) := by
  unfold Site.publish
  cases found : store.bucket? m with
  | none =>
    cases document : shelf.document? m with
    | none =>
      simp only [document, Option.isSome_none, Bool.false_eq_true, if_false]
      refine of_difference (r := {}) ?_ report.merge_empty.symm ?_ (fun _ _ => rfl) rfl rfl
      · simp [Report.between, found, document, Document.not_renews_self]
      · simp [found, document, Document.Follows]
    | some d =>
      have gone : (shelf.delete (Document.idOf m)).document? m = none := by
        rw [shelf.document?_delete, if_pos rfl]
      have counted : (shelf.delete (Document.idOf m)).deletes = shelf.deletes + 1 ∧
          (shelf.delete (Document.idOf m)).writes = shelf.writes := by
        have here : shelf.documents.contains (Document.idOf m) = true := by
          rw [Catalog.contains, ← Shelf.document?, document]
          rfl
        simp [Shelf.delete, here]
      simp only [document, Option.isSome_some, if_true]
      refine of_difference (r := { deleted := [m] }) ?_ ?_ ?_ ?_ counted.2 counted.1
      · simp [Report.between, found, document, gone, Document.Renews]
      · simp [Report.merge]
      · simp [found, gone, Document.Follows]
      · intro n outside
        exact (shelf.document?_delete m n).trans (if_neg (by simpa using outside))
  | some b =>
    dsimp only
    cases current : isCurrent shelf m (Page.render locale m b.records) b.fileIds with
    | true =>
      obtain ⟨d, document, fingerprint, sources⟩ := isCurrent_iff.1 current
      simp only [if_true]
      refine of_difference (r := { unchanged := [m] }) ?_ ?_ ?_ (fun _ _ => rfl) rfl rfl
      · simp [Report.between, found, document, Document.not_renews_self]
      · simp [Report.merge]
      · rw [List.forall_mem_singleton, found]
        exact ⟨d, document, sources, fingerprint, .inl document⟩
    | false =>
      have renews := renews_of_stale current
      have differs : ∀ d, shelf.document? m = some d →
          Document.ofPage m (Page.render locale m b.records) b.fileIds ≠ d := by
        rintro d document rfl
        rw [document] at renews
        exact Document.not_renews_self _ renews
      simp only [Bool.false_eq_true, if_false]
      refine of_difference (r := { written := [m] }) ?_ ?_ ?_ ?_ rfl rfl
      · simpa [Report.between, found, shelf.document?_write, renews] using differs
      · simp [Report.merge]
      · rw [List.forall_mem_singleton, found, shelf.document?_write, if_pos rfl]
        exact ⟨_, rfl, rfl, rfl, .inr rfl⟩
      · intro n outside
        rw [shelf.document?_write, if_neg (by simpa using outside)]

theorem foldl_publish (locale : Locale) {modules : List String} (distinct : modules.Nodup)
    (state : Shelf × Report) :
    Accounts locale store modules state (modules.foldl (Site.publish locale store) state) := by
  induction modules generalizing state with
  | nil => exact refl state
  | cons m rest ih =>
    obtain ⟨new, distinct⟩ := List.nodup_cons.1 distinct
    exact (publish locale state.1 state.2 m).trans (ih distinct _) (by simpa using new)

end Accounts

/- Taking the marks leaves the files of all modules as they are. -/
theorem accounts_flush (site : Site) :
    Accounts site.locale site.store site.store.dirty.keys (site.shelf, {})
      (site.flush.1.shelf, site.flush.2) := by
  have steps : Accounts site.locale site.store.takeDirty.2 site.store.dirty.keys (site.shelf, {})
      (site.flush.1.shelf, site.flush.2) :=
    Accounts.foldl_publish site.locale site.store.dirty.keys_nodup (site.shelf, {})
  obtain ⟨report, follows, others, writes, deletes⟩ := steps
  exact ⟨report, follows, others, writes, deletes⟩

theorem flush_report (site : Site) :
    site.flush.2 = .between site.store site.store.dirty.keys site.shelf site.flush.1.shelf :=
  site.accounts_flush.report

theorem document?_flush (site : Site) {m : String} (unmarked : m ∉ site.store.dirty.keys) :
    site.flush.1.shelf.document? m = site.shelf.document? m :=
  site.accounts_flush.others m unmarked

theorem mem_dirty_of_document?_ne {site : Site} {m : String}
    (differs : site.flush.1.shelf.document? m ≠ site.shelf.document? m) :
    m ∈ site.store.dirty.keys := by
  by_contra unmarked
  exact differs (site.document?_flush unmarked)

theorem mem_written (site : Site) (m : String) : m ∈ site.flush.2.written ↔
    Document.Renews (site.shelf.document? m) (site.flush.1.shelf.document? m) := by
  rw [flush_report, Report.between, List.mem_filter, decide_eq_true_iff, and_iff_right_iff_imp]
  intro renews
  refine mem_dirty_of_document?_ne fun same => ?_
  rw [same] at renews
  exact Document.not_renews_self _ renews

theorem mem_deleted (site : Site) (m : String) : m ∈ site.flush.2.deleted ↔
    (site.shelf.document? m).isSome ∧ site.flush.1.shelf.document? m = none := by
  rw [flush_report, Report.between, List.mem_filter, decide_eq_true_iff, and_iff_right_iff_imp]
  rintro ⟨present, gone⟩
  refine mem_dirty_of_document?_ne fun same => ?_
  rw [← same, gone] at present
  cases present

theorem mem_unchanged (site : Site) (m : String) : m ∈ site.flush.2.unchanged ↔
    m ∈ site.store.dirty.keys ∧ (site.store.bucket? m).isSome ∧
      ∃ d, site.shelf.document? m = some d ∧ site.flush.1.shelf.document? m = some d := by
  rw [flush_report, Report.between, List.mem_filter, decide_eq_true_iff]
  simp only [Option.mem_def]

theorem report_ascending (site : Site) :
    ∀ list ∈ [site.flush.2.written, site.flush.2.deleted, site.flush.2.unchanged],
      (list.map Text.bytes).Pairwise (· < ·) := by
  have ascending (p : String → Bool) :
      ((site.store.dirty.keys.filter p).map Text.bytes).Pairwise (· < ·) :=
    site.store.dirty.keys_bytes_ascending.sublist (List.filter_sublist.map _)
  simp only [flush_report, Report.between, List.forall_mem_cons]
  exact ⟨ascending _, ascending _, ascending _, List.forall_mem_nil _⟩

theorem report_disjoint (site : Site) :
    [site.flush.2.written, site.flush.2.deleted, site.flush.2.unchanged].Pairwise
      List.Disjoint := by
  have written_deleted : List.Disjoint site.flush.2.written site.flush.2.deleted := by
    intro m written deleted
    obtain ⟨d, present, _⟩ := (site.mem_written m).1 written
    rw [((site.mem_deleted m).1 deleted).2] at present
    cases present
  have written_unchanged : List.Disjoint site.flush.2.written site.flush.2.unchanged := by
    intro m written unchanged
    have renews := (site.mem_written m).1 written
    obtain ⟨_, _, d, before, after⟩ := (site.mem_unchanged m).1 unchanged
    rw [before, after] at renews
    exact Document.not_renews_self _ renews
  have deleted_unchanged : List.Disjoint site.flush.2.deleted site.flush.2.unchanged := by
    intro m deleted unchanged
    obtain ⟨_, _, d, _, after⟩ := (site.mem_unchanged m).1 unchanged
    rw [((site.mem_deleted m).1 deleted).2] at after
    cases after
  simp [written_deleted, written_unchanged, deleted_unchanged]

/- No marks are left, so the second flush has nothing to go through. -/
theorem flush_flush (site : Site) : site.flush.1.flush = (site.flush.1, {}) := rfl

theorem document?_flush_of_files (site : Site) {m : String} (marked : m ∈ site.store.dirty.keys)
    {b : Bucket} (files : site.store.bucket? m = some b) :
    ∃ d, site.flush.1.shelf.document? m = some d ∧ d.sources = b.fileIds ∧
      d.fingerprint = (Page.render site.locale m b.records).fingerprint ∧
      (site.shelf.document? m = some d ∨
        d = .ofPage m (Page.render site.locale m b.records) b.fileIds) := by
  have follows := site.accounts_flush.follows m marked
  rw [files] at follows
  exact follows

theorem document?_flush_of_no_files (site : Site) {m : String}
    (marked : m ∈ site.store.dirty.keys) (gone : site.store.bucket? m = none) :
    site.flush.1.shelf.document? m = none := by
  have follows := site.accounts_flush.follows m marked
  rw [gone] at follows
  exact follows

/-- Of every site, a flush reports the difference it makes. The modules written are those with a
document that is new or has another fingerprint or other files than before, the modules deleted
those that had a document and have none; marked modules with files and a document that stays as it
is are reported as unchanged. No module is in two lists, and each list is in the order of bytes.
Behind the flush a marked module with files has a document with these files and the fingerprint of
their rendering, which is the one from before or that rendering itself, and a marked module without
files has none. Documents of other modules stay as they are, writes and deletions are counted as
reported, and a second flush finds nothing to do. -/
theorem flush_reports_difference (site : Site) :
    let before := site.shelf
    let after := site.flush.1.shelf
    let report := site.flush.2
    (∀ m, m ∈ report.written ↔ ∃ d, after.document? m = some d ∧
      ∀ old, before.document? m = some old →
        old.fingerprint ≠ d.fingerprint ∨ old.sources ≠ d.sources) ∧
    (∀ m, m ∈ report.deleted ↔ (before.document? m).isSome ∧ after.document? m = none) ∧
    (∀ m, m ∈ report.unchanged ↔ m ∈ site.store.dirty.keys ∧ (site.store.bucket? m).isSome ∧
      ∃ d, before.document? m = some d ∧ after.document? m = some d) ∧
    (∀ list ∈ [report.written, report.deleted, report.unchanged],
      (list.map Text.bytes).Pairwise (· < ·)) ∧
    [report.written, report.deleted, report.unchanged].Pairwise List.Disjoint ∧
    (∀ m ∈ site.store.dirty.keys, ∀ b, site.store.bucket? m = some b →
      ∃ d, after.document? m = some d ∧ d.sources = b.fileIds ∧
        d.fingerprint = (Page.render site.locale m b.records).fingerprint ∧
        (before.document? m = some d ∨
          d = .ofPage m (Page.render site.locale m b.records) b.fileIds)) ∧
    (∀ m ∈ site.store.dirty.keys, site.store.bucket? m = none → after.document? m = none) ∧
    (∀ m, m ∉ site.store.dirty.keys → after.document? m = before.document? m) ∧
    after.writes = before.writes + report.written.length ∧
    after.deletes = before.deletes + report.deleted.length ∧
    site.flush.1.flush = (site.flush.1, {}) := by
  intro before after report
  have writes : after.writes = before.writes + report.written.length :=
    site.accounts_flush.writes.trans (by rw [← flush_report])
  have deletes : after.deletes = before.deletes + report.deleted.length :=
    site.accounts_flush.deletes.trans (by rw [← flush_report])
  exact ⟨site.mem_written, site.mem_deleted, site.mem_unchanged, site.report_ascending,
    site.report_disjoint, fun _ marked _ => site.document?_flush_of_files marked,
    fun _ => site.document?_flush_of_no_files, fun _ => site.document?_flush, writes, deletes,
    site.flush_flush⟩

end Site

end Commentary
