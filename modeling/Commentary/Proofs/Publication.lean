import Commentary.Proofs.Marks
import Commentary.Proofs.Steps

/-! Documents against the store. After a flush the shelf holds one document for each module, made
from the files of that module; between flushes this holds of every module without a mark. A flush
leaves a document alone when its fingerprint and its files are right, so its content is right only
as far as the digest tells the rendered contents apart. That is a hypothesis about the contents of
one run, never about all texts. -/
namespace Commentary

theorem Document.idOf_injective {m n : String} (same : Document.idOf m = Document.idOf n) :
    m = n :=
  (String.append_right_inj "doc:").1 same

/-- No two of the contents have the same fingerprint. -/
def Page.TellsApart (contents : List String) : Prop :=
  ∀ a ∈ contents, ∀ b ∈ contents, Page.fingerprintOf a = Page.fingerprintOf b → a = b

/-- What a shelf has to hold for the files of a module. -/
def Document.Shows (locale : Locale) (module : String) : Option Bucket → Option Document → Prop
  | none, document => document = none
  | some b, document => ∃ d, document = some d ∧ d.id = Document.idOf module ∧
      d.module = module ∧ d.sources = b.fileIds ∧
      d.fingerprint = (Page.render locale module b.records).fingerprint

theorem Document.shows_some {locale : Locale} {module : String} {b : Bucket} {d : Document} :
    Document.Shows locale module (some b) (some d) ↔
      d.id = Document.idOf module ∧ d.module = module ∧ d.sources = b.fileIds ∧
      d.fingerprint = (Page.render locale module b.records).fingerprint := by
  constructor
  · rintro ⟨_, same, shown⟩
    cases Option.some.inj same
    exact shown
  · intro shown
    exact ⟨d, rfl, shown⟩

namespace Shelf

/-- Every document was made from one of the contents and stands under the id of its module. -/
def Made (shelf : Shelf) (contents : List String) : Prop :=
  ∀ id d, shelf.documents.get? id = some d →
    id = Document.idOf d.module ∧ d.content ∈ contents ∧
    d = .ofPage d.module ⟨d.content, Page.fingerprintOf d.content⟩ d.sources

@[simp] theorem get?_delete (shelf : Shelf) (id k : String) :
    (shelf.delete id).documents.get? k = if k = id then none else shelf.documents.get? k := by
  unfold delete
  split
  · exact Catalog.get?_erase ..
  · rename_i missing
    have absent : shelf.documents.get? id = none := by
      simpa [Catalog.contains] using missing
    by_cases same : k = id
    · rw [if_pos same, same, absent]
    · rw [if_neg same]

theorem document?_delete (shelf : Shelf) (m n : String) :
    (shelf.delete (Document.idOf m)).document? n = if n = m then none else shelf.document? n := by
  rw [document?, get?_delete]
  by_cases same : n = m
  · simp [same]
  · have differs : Document.idOf n ≠ Document.idOf m := fun h => same (Document.idOf_injective h)
    rw [if_neg differs, if_neg same, document?]

theorem document?_write (shelf : Shelf) (m n : String) (page : Page) (sources : List String) :
    (shelf.write (.ofPage m page sources)).document? n =
      if n = m then some (.ofPage m page sources) else shelf.document? n := by
  rw [document?, write, Catalog.get?_insert]
  by_cases same : n = m
  · simp [same, Document.ofPage]
  · have differs : Document.idOf n ≠ Document.idOf m := fun h => same (Document.idOf_injective h)
    rw [Document.ofPage, if_neg differs, if_neg same, document?]

namespace Made

variable {shelf : Shelf} {contents : List String}

theorem mono {more : List String} (made : shelf.Made contents) (within : contents ⊆ more) :
    shelf.Made more := by
  intro id d found
  obtain ⟨place, member, shape⟩ := made id d found
  exact ⟨place, within member, shape⟩

theorem delete (made : shelf.Made contents) (id : String) : (shelf.delete id).Made contents := by
  intro k d found
  rw [get?_delete] at found
  by_cases same : k = id
  · simp [same] at found
  · exact made k d (by simpa [same] using found)

theorem write (made : shelf.Made contents) (m : String) {page : Page} (sources : List String)
    (digest : page.fingerprint = Page.fingerprintOf page.content)
    (member : page.content ∈ contents) :
    (shelf.write (.ofPage m page sources)).Made contents := by
  intro k d found
  rw [Shelf.write, Catalog.get?_insert] at found
  by_cases same : k = (Document.ofPage m page sources).id
  · rw [if_pos same] at found
    cases Option.some.inj found
    exact ⟨same, member, by simp only [Document.ofPage, digest]⟩
  · exact made k d (by simpa [same] using found)

end Made

end Shelf

namespace Site

theorem isCurrent_iff {shelf : Shelf} {module : String} {page : Page} {sources : List String} :
    isCurrent shelf module page sources = true ↔
      ∃ d, shelf.document? module = some d ∧ d.fingerprint = page.fingerprint ∧
        d.sources = sources := by
  unfold isCurrent
  cases shelf.document? module with
  | none => simp
  | some d => simp

/-- What publishing a module does to a shelf. -/
structure Publishes (locale : Locale) (bucket : Option Bucket) (module : String)
    (contents : List String) (shelf next : Shelf) : Prop where
  made : next.Made contents
  shows : Document.Shows locale module bucket (next.document? module)
  others : ∀ n, n ≠ module → next.document? n = shelf.document? n

theorem publish_publishes (locale : Locale) (store : Store) (shelf : Shelf) (report : Report)
    (module : String) {contents : List String} (made : shelf.Made contents)
    (rendered : ∀ b, store.bucket? module = some b →
      (Page.render locale module b.records).content ∈ contents) :
    Publishes locale (store.bucket? module) module contents shelf
      (publish locale store (shelf, report) module).1 := by
  unfold publish
  cases found : store.bucket? module with
  | none =>
    cases document : shelf.document? module with
    | none =>
      simp only [document, Option.isSome_none, Bool.false_eq_true, if_false]
      exact ⟨made, document, fun _ _ => rfl⟩
    | some d =>
      simp only [document, Option.isSome_some, if_true]
      refine ⟨made.delete _, ?_, ?_⟩
      · exact (shelf.document?_delete module module).trans (if_pos rfl)
      · intro n differs
        exact (shelf.document?_delete module n).trans (if_neg differs)
  | some b =>
    cases current : isCurrent shelf module (Page.render locale module b.records) b.fileIds with
    | true =>
      obtain ⟨d, document, fingerprint, sources⟩ := isCurrent_iff.1 current
      obtain ⟨place, _, shape⟩ := made _ d document
      have named : d.module = module := (Document.idOf_injective place).symm
      have id : d.id = Document.idOf module := by
        rw [shape, Document.ofPage, named]
      simp only [current, if_true]
      refine ⟨made, ?_, fun _ _ => rfl⟩
      rw [document]
      exact Document.shows_some.2 ⟨id, named, sources, fingerprint⟩
    | false =>
      simp only [current, Bool.false_eq_true, if_false]
      refine ⟨made.write module _ rfl (rendered b found), ?_, ?_⟩
      · rw [shelf.document?_write, if_pos rfl]
        exact Document.shows_some.2 ⟨rfl, rfl, rfl, rfl⟩
      · intro n differs
        rw [shelf.document?_write, if_neg differs]

/- The induction is on the modules. A later step of the fold either publishes the module again or
leaves its document alone, so it does not matter whether a module is listed twice. -/
theorem foldl_publish (locale : Locale) (store : Store) {contents : List String}
    (modules : List String) (state : Shelf × Report) (made : state.1.Made contents)
    (rendered : ∀ m ∈ modules, ∀ b, store.bucket? m = some b →
      (Page.render locale m b.records).content ∈ contents) :
    let last := (modules.foldl (publish locale store) state).1
    last.Made contents ∧
    (∀ m ∈ modules, Document.Shows locale m (store.bucket? m) (last.document? m)) ∧
    ∀ m, m ∉ modules → last.document? m = state.1.document? m := by
  induction modules generalizing state with
  | nil => exact ⟨made, by simp, fun _ _ => rfl⟩
  | cons m rest ih =>
    have first := publish_publishes locale store state.1 state.2 m made
      (rendered m List.mem_cons_self)
    obtain ⟨kept, shown, frame⟩ := ih _ first.made
      (fun n member => rendered n (List.mem_cons_of_mem m member))
    refine ⟨kept, ?_, ?_⟩
    · intro n member
      by_cases later : n ∈ rest
      · exact shown n later
      · have same : n = m := (List.mem_cons.1 member).resolve_right later
        subst same
        rw [List.foldl_cons, frame n later]
        exact first.shows
    · intro n outside
      rw [List.mem_cons, not_or] at outside
      rw [List.foldl_cons, frame n outside.2]
      exact first.others n outside.1

/-- The contents that a flush of the site renders. -/
def renderings (site : Site) : List String :=
  site.store.dirty.keys.filterMap fun m =>
    (site.store.bucket? m).map fun b => (Page.render site.locale m b.records).content

/-- The documents of all modules without a mark are right, given the contents rendered so far. -/
structure InStep (site : Site) (contents : List String) : Prop where
  shows : ∀ m, site.store.dirty.get? m = none →
    Document.Shows site.locale m (site.store.bucket? m) (site.shelf.document? m)
  rendered : ∀ m b, site.store.dirty.get? m = none → site.store.bucket? m = some b →
    (Page.render site.locale m b.records).content ∈ contents
  made : site.shelf.Made contents

theorem marks_step (reader : Reader) (site : Site) (e : Event) :
    Store.MarksChanges site.store (step reader site e).store := by
  rw [step, settle_store]
  cases process site.filter reader (e, (announce site.relatives e).get? e.id) with
  | removed diagnostics => exact Store.MarksChanges.remove _ _
  | documented module docs => exact Store.MarksChanges.upsert _ _ _ _

namespace InStep

variable {site : Site} {contents : List String}

theorem of_empty (store : site.store = {}) (shelf : site.shelf.documents = {}) :
    site.InStep [] := by
  refine ⟨?_, ?_, ?_⟩
  · intro m _
    rw [store, Shelf.document?, shelf]
    rfl
  · intro m b _ found
    rw [store] at found
    cases found
  · intro id d found
    rw [shelf] at found
    cases found

/- Only marked modules change, and the shelf does not change at all. -/
theorem step (inStep : site.InStep contents) (reader : Reader) (e : Event) :
    (Site.step reader site e).InStep contents := by
  have marks := marks_step reader site e
  have locale : (Site.step reader site e).locale = site.locale := settle_locale ..
  have shelf : (Site.step reader site e).shelf = site.shelf := settle_shelf ..
  refine ⟨?_, ?_, ?_⟩
  · intro m clean
    obtain ⟨before, same⟩ := marks m clean
    rw [locale, shelf, same]
    exact inStep.shows m before
  · intro m b clean found
    obtain ⟨before, same⟩ := marks m clean
    rw [same] at found
    rw [locale]
    exact inStep.rendered m b before found
  · rw [shelf]
    exact inStep.made

theorem apply (inStep : site.InStep contents) (reader : Reader) (events : List Event) :
    (site.apply reader events).InStep contents :=
  apply_induction (P := fun s => s.InStep contents) reader events
    ⟨inStep.shows, inStep.rendered, inStep.made⟩ fun _ e holds => holds.step reader e

theorem flush (inStep : site.InStep contents) :
    site.flush.1.InStep (contents ++ site.renderings) := by
  have rendered : ∀ m ∈ site.store.dirty.keys, ∀ b, site.store.bucket? m = some b →
      (Page.render site.locale m b.records).content ∈ contents ++ site.renderings := by
    intro m member b found
    apply List.mem_append_right
    exact List.mem_filterMap.2 ⟨m, member, by rw [found]; rfl⟩
  have made : site.shelf.Made (contents ++ site.renderings) :=
    inStep.made.mono (List.subset_append_left _ _)
  obtain ⟨kept, shown, frame⟩ := foldl_publish site.locale site.store.takeDirty.2
    site.store.dirty.keys (site.shelf, {}) made rendered
  refine ⟨?_, ?_, kept⟩
  · intro m _
    by_cases marked : m ∈ site.store.dirty.keys
    · exact shown m marked
    · have unchanged := frame m marked
      have before := inStep.shows m (Catalog.not_mem_keys_iff.1 marked)
      rw [← unchanged] at before
      exact before
  · intro m b _ found
    by_cases marked : m ∈ site.store.dirty.keys
    · exact rendered m marked b found
    · exact List.mem_append_left _
        (inStep.rendered m b (Catalog.not_mem_keys_iff.1 marked) found)

/-- A document that is left alone has the right content if the digest tells it apart. -/
theorem content_eq (inStep : site.InStep contents) (apart : Page.TellsApart contents) {m : String}
    {b : Bucket} {d : Document} (clean : site.store.dirty.get? m = none)
    (found : site.store.bucket? m = some b) (document : site.shelf.document? m = some d) :
    d.content = (Page.render site.locale m b.records).content := by
  have shown := inStep.shows m clean
  rw [found, document] at shown
  obtain ⟨_, _, _, fingerprint⟩ := Document.shows_some.1 shown
  obtain ⟨_, member, shape⟩ := inStep.made _ d document
  have digest : d.fingerprint = Page.fingerprintOf d.content := congrArg Document.fingerprint shape
  exact apart _ member _ (inStep.rendered m b clean found) (digest.symm.trans fingerprint)

/-- Without marks a document is always that of a module with files. -/
theorem bucket_of_document (inStep : site.InStep contents) (clean : site.store.dirty = {})
    {id : String} {d : Document} (found : site.shelf.documents.get? id = some d) :
    ∃ b, site.store.bucket? d.module = some b ∧ site.shelf.document? d.module = some d ∧
      d.sources = b.fileIds ∧
      d.fingerprint = (Page.render site.locale d.module b.records).fingerprint := by
  have document : site.shelf.document? d.module = some d := by
    rw [Shelf.document?, ← (inStep.made id d found).1, found]
  have shown := inStep.shows d.module (by rw [clean]; rfl)
  rw [document] at shown
  cases bucket : site.store.bucket? d.module with
  | none =>
    rw [bucket] at shown
    cases shown
  | some b =>
    rw [bucket] at shown
    obtain ⟨_, _, sources, fingerprint⟩ := Document.shows_some.1 shown
    exact ⟨b, rfl, document, sources, fingerprint⟩

theorem mem_documents (inStep : site.InStep contents) (clean : site.store.dirty = {})
    (id : String) :
    id ∈ site.shelf.documents.keys ↔ ∃ m ∈ site.store.moduleNames, id = Document.idOf m := by
  rw [Catalog.mem_keys_iff]
  constructor
  · rintro ⟨d, found⟩
    obtain ⟨b, bucket, _⟩ := inStep.bucket_of_document clean found
    exact ⟨d.module, Catalog.mem_keys_iff.2 ⟨b, bucket⟩, (inStep.made id d found).1⟩
  · rintro ⟨m, member, rfl⟩
    obtain ⟨b, found⟩ := Catalog.mem_keys_iff.1 member
    have shown := inStep.shows m (by rw [clean]; rfl)
    rw [Store.bucket?, found] at shown
    obtain ⟨d, document, _⟩ := shown
    exact ⟨d, document⟩

end InStep

/-- What is done to a site from outside. -/
inductive Call where
  | apply (reader : Reader) (events : List Event)
  | flush
  | populate (reader : Reader) (files : List KnownFile)

def Call.flushes : Call → Bool
  | .apply .. => false
  | .flush => true
  | .populate .. => true

def perform (site : Site) : Call → Site
  | .apply reader events => site.apply reader events
  | .flush => site.flush.1
  | .populate reader files => (site.populate reader files).1

def after (site : Site) (calls : List Call) : Site :=
  calls.foldl perform site

/-- The contents that a call renders. -/
def renderedBy (site : Site) : Call → List String
  | .apply .. => []
  | .flush => site.renderings
  | .populate reader files => (site.apply reader (files.map KnownFile.event)).renderings

/-- All contents that are rendered in the course of the calls. -/
def renderedIn (site : Site) : List Call → List String
  | [] => []
  | call :: calls => site.renderedBy call ++ (site.perform call).renderedIn calls

theorem InStep.perform {site : Site} {contents : List String} (inStep : site.InStep contents)
    (call : Call) : (site.perform call).InStep (contents ++ site.renderedBy call) := by
  cases call with
  | apply reader events =>
    rw [renderedBy, List.append_nil]
    exact inStep.apply reader events
  | flush => exact inStep.flush
  | populate reader files => exact (inStep.apply reader _).flush

theorem InStep.after (calls : List Call) {site : Site} {contents : List String}
    (inStep : site.InStep contents) :
    (site.after calls).InStep (contents ++ site.renderedIn calls) := by
  induction calls generalizing site contents with
  | nil => simpa [renderedIn, Site.after] using inStep
  | cons call calls ih =>
    rw [renderedIn, ← List.append_assoc]
    exact ih (inStep.perform call)

theorem locale_apply (reader : Reader) (site : Site) (events : List Event) :
    (site.apply reader events).locale = site.locale :=
  apply_induction (P := fun s => s.locale = site.locale) reader events rfl
    fun _ _ same => (settle_locale ..).trans same

theorem locale_after (calls : List Call) (site : Site) :
    (site.after calls).locale = site.locale := by
  induction calls generalizing site with
  | nil => rfl
  | cons call calls ih =>
    have first : (site.perform call).locale = site.locale := by
      cases call with
      | apply reader events => exact locale_apply reader site events
      | flush => rfl
      | populate reader files => exact locale_apply reader site _
    exact (ih _).trans first

theorem dirty_of_flushes (site : Site) {calls : List Call} {call : Call}
    (last : calls.getLast? = some call) (flushes : call.flushes = true) :
    (site.after calls).store.dirty = {} := by
  obtain ⟨before, rfl⟩ := List.getLast?_eq_some_iff.1 last
  rw [after, List.foldl_append]
  cases call with
  | apply reader events => cases flushes
  | flush => rfl
  | populate reader files => rfl

theorem InStep.ofConfig {c : Config} {shelf : Shelf} {site : Site}
    (empty : shelf.documents = {}) (made : ofConfig c shelf = .ok site) : site.InStep [] := by
  obtain ⟨filter, rfl⟩ := ofConfig_eq_ok made
  exact InStep.of_empty rfl empty

/-- Whatever is called on a new site with an empty shelf, the document of a module without a mark
is the one its files call for, and there is none if it has no files. Behind a flush there are no
marks, and no documents but those of the modules. Files are listed in the order of their bytes. -/
theorem shelf_in_step_with_store (c : Config) (shelf : Shelf) (site : Site)
    (empty : shelf.documents = {}) (made : ofConfig c shelf = .ok site) (calls : List Call) :
    let last := site.after calls
    (∀ m, m ∉ last.store.dirty.keys →
      Document.Shows site.locale m (last.store.bucket? m) (last.shelf.document? m)) ∧
    (∀ call, calls.getLast? = some call → call.flushes = true →
      last.store.dirty = {} ∧
      (∀ id, id ∈ last.shelf.documents.keys ↔
        ∃ m ∈ last.store.moduleNames, id = Document.idOf m) ∧
      ∀ m, Document.Shows site.locale m (last.store.bucket? m) (last.shelf.document? m)) ∧
    (Page.TellsApart (site.renderedIn calls) →
      ∀ m b d, m ∉ last.store.dirty.keys → last.store.bucket? m = some b →
        last.shelf.document? m = some d →
        d.content = (Page.render site.locale m b.records).content) ∧
    ∀ m b, last.store.bucket? m = some b → (b.fileIds.map Text.bytes).Pairwise (· < ·) := by
  intro last
  have inStep : last.InStep (site.renderedIn calls) := (InStep.ofConfig empty made).after calls
  have locale : last.locale = site.locale := locale_after calls site
  rw [← locale]
  refine ⟨?_, ?_, ?_, fun _ b _ => b.keys_bytes_ascending⟩
  · intro m unmarked
    exact inStep.shows m (Catalog.not_mem_keys_iff.1 unmarked)
  · intro call final flushes
    have clean : last.store.dirty = {} := dirty_of_flushes site final flushes
    refine ⟨clean, inStep.mem_documents clean, ?_⟩
    intro m
    apply inStep.shows
    rw [clean]
    rfl
  · intro apart m b d unmarked found document
    exact inStep.content_eq apart (Catalog.not_mem_keys_iff.1 unmarked) found document

/-- A file changes without effect, so that the second flush finds the document current. -/
theorem unchanged_document_in_step :
    let reader : Reader := .fixed [] [{ name := "f" }]
    let calls : List Call := [.populate reader [⟨"a", "/s/m/a.js", "a.js"⟩],
      .apply reader [.changed "a" "/s/m/a.js"], .flush]
    let site : Site := { filter := ⟨"/s", []⟩, locale := {} }
    ofConfig { sourceDir := "/s" } {} = .ok site ∧
      ∃ d, (site.after calls).shelf.document? "m" = some d ∧ d.sources = ["a"] ∧
        d.content = "# m\n\n## f\n" := by
  intro reader calls site
  have made : ofConfig { sourceDir := "/s" } {} = .ok site := rfl
  have final : calls.getLast? = some .flush := rfl
  have entries : ((site.after calls).store.bucket? "m").map Catalog.entries =
      some [("a", [{ name := "f" }])] := by decide +kernel
  have unmarked : "m" ∉ (site.after calls).store.dirty.keys := by
    rw [dirty_of_flushes site final rfl]
    exact List.not_mem_nil
  have rendered : site.renderedIn calls = ["# m\n\n## f\n", "# m\n\n## f\n"] := by decide +kernel
  have text : (Page.render site.locale "m" [{ name := "f" }]).content = "# m\n\n## f\n" := by
    decide +kernel
  clear_value reader calls site
  obtain ⟨b, found, shape⟩ := Option.map_eq_some_iff.1 entries
  obtain ⟨_, flushed, contents, _⟩ := shelf_in_step_with_store _ _ _ rfl made calls
  have shown := (flushed .flush final rfl).2.2 "m"
  rw [found] at shown
  obtain ⟨d, document, _, _, sources, _⟩ := shown
  have apart : Page.TellsApart (site.renderedIn calls) := by
    rw [rendered]
    simp [Page.TellsApart]
  refine ⟨made, d, document, ?_, ?_⟩
  · rw [sources, Bucket.fileIds, Catalog.keys, shape]
    rfl
  · rw [contents apart "m" b d unmarked found document, Bucket.records, Catalog.values, shape]
    exact text

end Site

end Commentary
