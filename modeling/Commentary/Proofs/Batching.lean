import Commentary.Proofs.History
import Commentary.Proofs.Publication

/-! Where a stream of events is cut into batches, and how the events of different files are mixed,
does not show in the end. Two runs are not compared step by step: each is compared with the ledger
of its own events, and the two ledgers are equal. Documents that one run writes and deletes again
may never exist in the other one. -/
namespace Commentary

/-- Two stores that say the same are the same but for their marks. -/
theorem Store.Represents.unique {s t : Store} {l : Ledger} (first : s.Represents l)
    (second : t.Represents l) : s.modules = t.modules ∧ s.owners = t.owners := by
  constructor
  · apply Catalog.ext_get?
    intro m
    change s.bucket? m = t.bucket? m
    have both : (s.bucket? m).isSome ↔ (t.bucket? m).isSome :=
      (first.bucket_isSome m).trans (second.bucket_isSome m).symm
    cases left : s.bucket? m with
    | none =>
      rw [left] at both
      have absent : t.bucket? m = none :=
        Option.not_isSome_iff_eq_none.1 fun present => Bool.false_ne_true (both.2 present)
      exact absent.symm
    | some b =>
      obtain ⟨c, right⟩ := Option.isSome_iff_exists.1 (both.1 (by rw [left]; rfl))
      have same : b = c := by
        apply Catalog.ext_get?
        intro id
        have records := (first.agree_on second (rfl : l id = l id)).2 m
        rw [records?, records?, left, right] at records
        exact records
      rw [right, same]
  · apply Catalog.ext_get?
    intro id
    exact (first.agree_on second rfl).1

theorem Store.Represents.eq_of_dirty {s t : Store} {l : Ledger} (first : s.Represents l)
    (second : t.Represents l) (marks : s.dirty = t.dirty) : s = t := by
  obtain ⟨modules, owners⟩ := first.unique second
  cases s
  cases t
  cases modules
  cases owners
  cases marks
  rfl

namespace History

theorem about_map (reader : Reader) (events : List Event) (id : String) :
    about (events.map (Prod.mk reader)) id =
      (events.filter fun e => e.id = id).map (Prod.mk reader) := by
  rw [about, List.filter_map]
  rfl

theorem ledger_eq_of_about {h k : History} (same : ∀ id, h.about id = k.about id)
    (filter : Filter) : h.ledger filter = k.ledger filter := by
  funext id
  rw [ledger, ledger, same]

end History

namespace Site

/-- What is called on a site while it takes in batches. -/
def Call.ofBatches (reader : Reader) (batches : List (List Event)) : List Call :=
  batches.flatMap fun batch => if batch.isEmpty then [] else [.apply reader batch, .flush]

theorem run_eq_after (reader : Reader) (site : Site) (batch : List Event) :
    (site.run reader batch).1 = site.after (Call.ofBatches reader [batch]) := by
  cases batch <;> rfl

/-- Reports are gathered on the side. -/
theorem foldl_serve (reader : Reader) (batches : List (List Event)) (state : Site × Report) :
    (batches.foldl (fun done batch =>
      ((run reader done.1 batch).1, done.2.merge (run reader done.1 batch).2)) state).1 =
      batches.foldl (fun site batch => (run reader site batch).1) state.1 := by
  induction batches generalizing state with
  | nil => rfl
  | cons batch batches ih => exact ih _

theorem serve_cons (reader : Reader) (site : Site) (batch : List Event)
    (batches : List (List Event)) :
    (site.serve reader (batch :: batches)).1 = (serve reader (run reader site batch).1 batches).1 :=
  (foldl_serve reader batches _).trans (foldl_serve reader batches (_, {})).symm

theorem serve_eq_after (reader : Reader) (batches : List (List Event)) (site : Site) :
    (site.serve reader batches).1 = site.after (Call.ofBatches reader batches) := by
  induction batches generalizing site with
  | nil => rfl
  | cons batch batches ih =>
    rw [serve_cons, ih, run_eq_after, after, after, after, ← List.foldl_append]
    simp [Call.ofBatches]

theorem Follows.run {site : Site} {filter : Filter} {h : History} (follows : site.Follows filter h)
    (reader : Reader) (batch : List Event) :
    (site.run reader batch).1.Follows filter (h ++ batch.map (Prod.mk reader)) := by
  cases batch with
  | nil => simpa [Site.run] using follows
  | cons e events => exact (follows.apply reader (e :: events)).flush

theorem Follows.serve {site : Site} {filter : Filter} {h : History}
    (follows : site.Follows filter h) (reader : Reader) (batches : List (List Event)) :
    (site.serve reader batches).1.Follows filter (h ++ batches.flatten.map (Prod.mk reader)) := by
  induction batches generalizing site h with
  | nil => simpa [Site.serve] using follows
  | cons batch batches ih =>
    have rest := ih (follows.run reader batch)
    rw [serve_cons, List.flatten_cons, List.map_append, ← List.append_assoc]
    exact rest

theorem dirty_serve (reader : Reader) (batches : List (List Event)) {site : Site}
    (clean : site.store.dirty = {}) : (site.serve reader batches).1.store.dirty = {} := by
  induction batches generalizing site with
  | nil => exact clean
  | cons batch batches ih =>
    rw [serve_cons]
    apply ih
    cases batch with
    | nil => exact clean
    | cons e events => rfl

/-- The store behind the last batch is that of the events of each file. -/
theorem serve_store_eq {site : Site} {filter : Filter} (start : site.Follows filter [])
    (clean : site.store.dirty = {}) (reader : Reader) {left right : List (List Event)}
    (same : ∀ id, (left.flatten.filter fun e => e.id = id) =
      right.flatten.filter fun e => e.id = id) :
    (site.serve reader left).1.store = (site.serve reader right).1.store := by
  have ledgers : History.ledger filter (left.flatten.map (Prod.mk reader)) =
      History.ledger filter (right.flatten.map (Prod.mk reader)) := by
    apply History.ledger_eq_of_about
    intro id
    rw [History.about_map, History.about_map, same]
  have first := (start.serve reader left).store
  have second := (start.serve reader right).store
  rw [List.nil_append] at first second
  rw [← ledgers] at second
  apply first.eq_of_dirty second
  rw [dirty_serve reader left clean, dirty_serve reader right clean]

theorem locale_serve (reader : Reader) (batches : List (List Event)) (site : Site) :
    (site.serve reader batches).1.locale = site.locale := by
  rw [serve_eq_after, locale_after]

namespace InStep

theorem serve {site : Site} {contents : List String} (inStep : site.InStep contents)
    (reader : Reader) (batches : List (List Event)) :
    (site.serve reader batches).1.InStep
      (contents ++ site.renderedIn (Call.ofBatches reader batches)) := by
  rw [serve_eq_after]
  exact inStep.after _

variable {a b : Site} {left right : List String}

theorem keys_eq (first : a.InStep left) (second : b.InStep right) (store : a.store = b.store)
    (clean : a.store.dirty = {}) : a.shelf.documents.keys = b.shelf.documents.keys := by
  apply Catalog.keys_eq_of_mem_iff
  intro id
  rw [first.mem_documents clean, second.mem_documents (store ▸ clean), store]

/-- Documents of one id show the same files, so they differ at most in what a digest hides. -/
theorem agree (first : a.InStep left) (second : b.InStep right) (store : a.store = b.store)
    (locale : a.locale = b.locale) (clean : a.store.dirty = {}) {id : String} {d e : Document}
    (one : a.shelf.documents.get? id = some d) (other : b.shelf.documents.get? id = some e) :
    d.module = e.module ∧ d.sources = e.sources ∧ d.fingerprint = e.fingerprint := by
  have module : d.module = e.module :=
    Document.idOf_injective ((first.made id d one).1.symm.trans (second.made id e other).1)
  obtain ⟨files, found, _, sources, fingerprint⟩ := first.bucket_of_document clean one
  obtain ⟨files', found', _, sources', fingerprint'⟩ :=
    second.bucket_of_document (store ▸ clean) other
  rw [← store, ← module, found] at found'
  cases Option.some.inj found'
  refine ⟨module, sources.trans sources'.symm, ?_⟩
  rw [fingerprint, fingerprint', module, locale]

/-- If the digest tells the contents of each run apart, the documents are the same throughout. -/
theorem documents_eq (first : a.InStep left) (second : b.InStep right) (store : a.store = b.store)
    (locale : a.locale = b.locale) (clean : a.store.dirty = {}) (apart : Page.TellsApart left)
    (apart' : Page.TellsApart right) : a.shelf.documents = b.shelf.documents := by
  apply Catalog.ext_get?
  intro id
  have keys : id ∈ a.shelf.documents.keys ↔ id ∈ b.shelf.documents.keys := by
    rw [first.keys_eq second store clean]
  cases one : a.shelf.documents.get? id with
  | none => exact (Catalog.not_mem_keys_iff.1 (mt keys.2 (Catalog.not_mem_keys_iff.2 one))).symm
  | some d =>
    obtain ⟨e, other⟩ := Catalog.mem_keys_iff.1 (keys.1 (Catalog.mem_keys_iff.2 ⟨d, one⟩))
    obtain ⟨module, sources, _⟩ := first.agree second store locale clean one other
    obtain ⟨files, found, document, _⟩ := first.bucket_of_document clean one
    obtain ⟨files', found', document', _⟩ := second.bucket_of_document (store ▸ clean) other
    have content : d.content = e.content := by
      have here := first.content_eq apart (by rw [clean]; rfl) found document
      have there := second.content_eq apart' (by rw [← store, clean]; rfl) found' document'
      rw [← store, ← module, found] at found'
      cases Option.some.inj found'
      rw [here, there, module, locale]
    have shape := (first.made id d one).2.2
    have shape' := (second.made id e other).2.2
    rw [other, shape, shape', module, sources, content]

end InStep

/-- Two runs of a new site with an empty shelf, over any batches with the same events for each
file, end with the same store and no marks, and with documents of the same ids, files and
fingerprints. -/
theorem runs_agree_on_same_events (c : Config) (shelf : Shelf) (site : Site)
    (empty : shelf.documents = {}) (made : ofConfig c shelf = .ok site) (reader : Reader)
    (left right : List (List Event))
    (same : ∀ id, (left.flatten.filter fun e => e.id = id) =
      right.flatten.filter fun e => e.id = id) :
    let a := (site.serve reader left).1
    let b := (site.serve reader right).1
    a.store = b.store ∧ a.store.dirty = {} ∧
    a.shelf.documents.keys = b.shelf.documents.keys ∧
    (∀ id d e, a.shelf.documents.get? id = some d → b.shelf.documents.get? id = some e →
      d.sources = e.sources ∧ d.fingerprint = e.fingerprint) ∧
    (Page.TellsApart (site.renderedIn (Call.ofBatches reader left)) →
      Page.TellsApart (site.renderedIn (Call.ofBatches reader right)) →
      a.shelf.documents = b.shelf.documents) := by
  intro a b
  have clean : site.store.dirty = {} := by
    obtain ⟨_, rfl⟩ := ofConfig_eq_ok made
    rfl
  have store : a.store = b.store := serve_store_eq (Follows.ofConfig made) clean reader same
  have dirty : a.store.dirty = {} := dirty_serve reader left clean
  have locale : a.locale = b.locale :=
    (locale_serve reader left site).trans (locale_serve reader right site).symm
  have first := (InStep.ofConfig empty made).serve reader left
  have second := (InStep.ofConfig empty made).serve reader right
  refine ⟨store, dirty, first.keys_eq second store dirty, ?_, ?_⟩
  · intro id d e one other
    exact (first.agree second store locale dirty one other).2
  · intro apart apart'
    exact first.documents_eq second store locale dirty apart apart'

/-- Two files, mixed and cut in two ways. One run flushes between the discovery of a file and its
deletion. -/
theorem mixed_runs_agree :
    let reader : Reader := .fixed [] [{ name := "f" }]
    let left : List (List Event) := [[.discovered "a" "/s/m/a.js" "a.js"],
      [.discovered "b" "/s/n/b.js" "b.js", .deleted "a"], [.changed "b" "/s/m/b.js"]]
    let right : List (List Event) := [[.discovered "b" "/s/n/b.js" "b.js",
      .discovered "a" "/s/m/a.js" "a.js", .changed "b" "/s/m/b.js", .deleted "a"]]
    let site : Site := { filter := ⟨"/s", []⟩, locale := {} }
    ofConfig { sourceDir := "/s" } {} = .ok site ∧
      (site.serve reader left).1.store = (site.serve reader right).1.store ∧
      (site.serve reader left).1.shelf.documents.keys =
        (site.serve reader right).1.shelf.documents.keys := by
  intro reader left right site
  have made : ofConfig { sourceDir := "/s" } {} = .ok site := rfl
  have same : ∀ id, (left.flatten.filter fun e => e.id = id) =
      right.flatten.filter fun e => e.id = id := by
    intro id
    by_cases a : "a" = id
    · subst a
      decide
    · by_cases b : "b" = id
      · subst b
        decide
      · simp [left, right, Event.id, a, b]
  clear_value reader left right site
  obtain ⟨store, _, keys, _⟩ := runs_agree_on_same_events _ _ _ rfl made reader left right same
  exact ⟨made, store, keys⟩

end Site

end Commentary
