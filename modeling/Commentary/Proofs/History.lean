import Commentary.Proofs.Steps

/-! The store as a function of what happened. For every file the last of its own events decides,
together with the path it was announced with; what happened to other files has no part in it. The
readers may differ from batch to batch, so an event is kept with the reader of its batch. -/
namespace Commentary

namespace Event

def path? : Event → Option String
  | .discovered _ path _ => some path
  | .changed _ path => some path
  | .deleted _ => none

def relative? : Event → Option String
  | .discovered _ _ relative => some relative
  | _ => none

/-- Discoveries and deletions decide under which path a file is known. -/
def announces : Event → Bool
  | .changed .. => false
  | _ => true

end Event

/-- The records of the file of an event, if there is a source to read. -/
def Reader.reads (reader : Reader) (e : Event) : Option (List Record) :=
  e.path?.bind fun path =>
    (reader.load path).toOption.map fun text => (reader.extract ⟨path, text⟩).records

/-- Events in the order they came in, each with the reader of its batch. -/
abbrev History := List (Reader × Event)

namespace History

def ofBatches (batches : List (Reader × List Event)) : History :=
  batches.flatMap fun b => b.2.map (Prod.mk b.1)

/-- The events of one file. -/
def about (h : History) (id : String) : History :=
  h.filter fun x => x.2.id = id

/-- The path of the latest discovery, unless there was a deletion since. -/
def announced (own : History) : Option String :=
  (own.filter fun x => x.2.announces).getLast?.bind fun x => x.2.relative?

theorem about_append (h : History) (reader : Reader) (e : Event) (id : String) :
    about (h ++ [(reader, e)]) id =
      if e.id = id then h.about id ++ [(reader, e)] else h.about id := by
  by_cases own : e.id = id <;> simp [about, own]

theorem announced_append (own : History) (reader : Reader) (e : Event) :
    announced (own ++ [(reader, e)]) = if e.announces then e.relative? else own.announced := by
  cases e <;> simp [announced, Event.announces, Event.relative?]

end History

namespace Site

/-- What an outcome leaves in a ledger. -/
def Outcome.entry : Outcome → Option (String × List Record)
  | .removed _ => none
  | .documented module docs => if docs.records = [] then none else some (module, docs.records)

theorem perform_operation (l : Ledger) (id : String) (o : Outcome) :
    l.perform (o.operation id) = Function.update l id o.entry := by
  cases o <;> rfl

end Site

namespace History

/-- The entry of a file, computed from its events. -/
def entry (filter : Filter) (own : History) : Option (String × List Record) :=
  own.getLast?.bind fun x => (Site.process filter x.1 (x.2, own.announced)).entry

def ledger (filter : Filter) (h : History) : Ledger :=
  fun id => entry filter (h.about id)

/-- An event adds what its outcome leaves, and only for its own file. -/
theorem ledger_append (filter : Filter) (h : History) (reader : Reader) (e : Event) :
    ledger filter (h ++ [(reader, e)]) =
      Function.update (ledger filter h) e.id (Site.process filter reader
        (e, announced (about (h ++ [(reader, e)]) e.id))).entry := by
  funext id
  by_cases own : e.id = id
  · subst own
    rw [Function.update_self, ledger, entry, about_append, if_pos rfl]
    simp
  · rw [Function.update_of_ne (Ne.symm own), ledger, ledger, about_append, if_neg own]

end History

namespace Site

/-- The store and the relative paths of a site are those of a history. -/
structure Follows (site : Site) (filter : Filter) (h : History) : Prop where
  filter_eq : site.filter = filter
  relatives : ∀ id, site.relatives.get? id = (h.about id).announced
  store : site.store.Represents (h.ledger filter)

namespace Follows

variable {site : Site} {filter : Filter} {h : History}

theorem of_empty (same : site.filter = filter) (relatives : site.relatives = {})
    (store : site.store = {}) : site.Follows filter [] := by
  refine ⟨same, ?_, ?_⟩
  · intro id
    rw [relatives]
    rfl
  · rw [store]
    exact Store.represents_empty

theorem announce (follows : site.Follows filter h) (reader : Reader) (e : Event) (id : String) :
    (Site.announce site.relatives e).get? id =
      History.announced (History.about (h ++ [(reader, e)]) id) := by
  rw [History.about_append]
  by_cases own : e.id = id
  · rw [if_pos own, History.announced_append]
    cases e <;> cases own <;>
      simp [Site.announce, Event.announces, Event.relative?, Event.id, follows.relatives]
  · have other : id ≠ e.id := Ne.symm own
    rw [if_neg own, ← follows.relatives]
    cases e with
    | discovered x path relative => exact (Catalog.get?_insert ..).trans (if_neg other)
    | changed x path => rfl
    | deleted x => exact (Catalog.get?_erase ..).trans (if_neg other)

theorem step (follows : site.Follows filter h) (reader : Reader) (e : Event) :
    (Site.step reader site e).Follows filter (h ++ [(reader, e)]) := by
  have paths := follows.announce reader e
  refine ⟨?_, ?_, ?_⟩
  · rw [Site.step, settle_filter]
    exact follows.filter_eq
  · intro id
    rw [Site.step, settle_relatives]
    exact paths id
  · rw [Site.step, settle_store, History.ledger_append, ← paths, ← perform_operation,
      follows.filter_eq]
    exact follows.store.perform _

theorem steps (follows : site.Follows filter h) (reader : Reader) (events : List Event) :
    (events.foldl (Site.step reader) site).Follows filter (h ++ events.map (Prod.mk reader)) := by
  induction events generalizing site h with
  | nil => simpa using follows
  | cons e events ih => simpa using ih (follows.step reader e)

theorem apply (follows : site.Follows filter h) (reader : Reader) (events : List Event) :
    (site.apply reader events).Follows filter (h ++ events.map (Prod.mk reader)) := by
  have cleared : { site with diagnostics := [] }.Follows filter h :=
    ⟨follows.filter_eq, follows.relatives, follows.store⟩
  rw [apply_eq_foldl_step]
  exact cleared.steps reader events

theorem flush (follows : site.Follows filter h) : site.flush.1.Follows filter h :=
  ⟨follows.filter_eq, follows.relatives, follows.store.takeDirty⟩

end Follows

theorem Follows.ofConfig {c : Config} {shelf : Shelf} {site : Site}
    (made : ofConfig c shelf = .ok site) : site.Follows site.filter [] := by
  obtain ⟨filter, rfl⟩ := ofConfig_eq_ok made
  exact Follows.of_empty rfl rfl rfl

end Site

end Commentary
