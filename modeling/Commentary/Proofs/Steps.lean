import Commentary.Proofs.Ledger
import Commentary.Site

/-! A batch is applied in passes: first all paths are announced, then the files are read, then the
outcomes are settled. Here a batch is taken apart into steps, one for each event, and shown to
leave the same site. Reading is not reordered by this: a file is read with the path that was
announced by its own event, never with a later one. -/
namespace Commentary

/-- A reader that finds the same records everywhere but at the missing paths. -/
def Reader.fixed (missing : List String) (records : List Record) : Reader where
  load path := if path ∈ missing then .error (.io path "no such file") else .ok ""
  extract _ := { records := records }

namespace Site

/-- What an outcome asks of the store. -/
def Outcome.operation (id : String) : Outcome → Store.Operation
  | .removed _ => .remove id
  | .documented module docs => .upsert id module docs.records

theorem ofConfig_eq_ok {c : Config} {shelf : Shelf} {site : Site}
    (made : ofConfig c shelf = .ok site) :
    ∃ filter,
      site = { filter := filter, locale := shelf.locale.getD c.locale, shelf := shelf } := by
  unfold ofConfig at made
  cases compiled : Filter.ofConfig c with
  | error cause => simp [compiled, Except.map] at made
  | ok filter =>
    simp only [compiled, Except.map, Except.ok.injEq] at made
    exact ⟨filter, made.symm⟩

section Settle

variable (site : Site) (id : String) (o : Outcome)

@[simp] theorem settle_store : (site.settle id o).store = site.store.perform (o.operation id) := by
  cases o <;> rfl

@[simp] theorem settle_filter : (site.settle id o).filter = site.filter := by
  cases o <;> rfl

@[simp] theorem settle_locale : (site.settle id o).locale = site.locale := by
  cases o <;> rfl

@[simp] theorem settle_relatives : (site.settle id o).relatives = site.relatives := by
  cases o <;> rfl

@[simp] theorem settle_shelf : (site.settle id o).shelf = site.shelf := by
  cases o <;> rfl

theorem settle_with_relatives (relatives : Catalog String) :
    { site with relatives := relatives }.settle id o =
      { site.settle id o with relatives := relatives } := by
  cases o <;> rfl

end Settle

/-- A single event, from its announcement to its outcome. -/
def step (reader : Reader) (site : Site) (e : Event) : Site :=
  let next := announce site.relatives e
  { site with relatives := next }.settle e.id (process site.filter reader (e, next.get? e.id))

/- The induction is on the events. The relative paths behind the batch are put into the site before
the first outcome is settled, which no outcome notices. -/
theorem settle_jobs_eq_foldl_step (reader : Reader) (events : List Event) (site : Site) :
    ((jobs site.relatives events).1.map fun job =>
        (job.1.id, process site.filter reader job)).foldl (fun s o => s.settle o.1 o.2)
      { site with relatives := (jobs site.relatives events).2 } =
    events.foldl (step reader) site := by
  induction events generalizing site with
  | nil => rfl
  | cons e events ih =>
    have rest := ih (step reader site e)
    have relatives : (step reader site e).relatives = announce site.relatives e :=
      settle_relatives _ _ _
    have filter : (step reader site e).filter = site.filter := settle_filter _ _ _
    rw [relatives, filter] at rest
    rw [List.foldl_cons, ← rest]
    simp only [jobs, List.map_cons, List.foldl_cons, settle_with_relatives, step, settle_filter]

theorem apply_eq_foldl_step (reader : Reader) (site : Site) (events : List Event) :
    site.apply reader events = events.foldl (step reader) { site with diagnostics := [] } :=
  settle_jobs_eq_foldl_step reader events { site with diagnostics := [] }

/-- What every step keeps, and the loss of old reports too, a batch keeps. -/
theorem apply_induction {P : Site → Prop} (reader : Reader) (events : List Event) {site : Site}
    (clear : P { site with diagnostics := [] })
    (keep : ∀ s e, P s → P (step reader s e)) : P (site.apply reader events) := by
  rw [apply_eq_foldl_step]
  exact List.foldlRecOn events _ clear fun s holds e _ => keep s e holds

end Site

end Commentary
