import Commentary.Document
import Commentary.Extraction
import Commentary.Filter
import Commentary.Store

/-! A site keeps a shelf of documents in step with a set of source files. Events change the
store; a flush brings the documents of the changed modules up to date. -/
namespace Commentary

/-- What happens to a file. A file whose path does not lie below the source directory counts as
removed; the relative path of a discovered file is the one patterns are matched with. -/
inductive Event where
  | discovered (id path relative : String)
  | changed (id path : String)
  | deleted (id : String)
deriving Repr, DecidableEq

def Event.id : Event → String
  | .discovered id _ _ => id
  | .changed id _ => id
  | .deleted id => id

/-- How sources are fetched and read. -/
structure Reader where
  load : String → Except Error String
  extract : Extraction.Source → Extraction

/-- The modules a flush touches, by what becomes of their documents. -/
structure Report where
  written : List String := []
  unchanged : List String := []
  deleted : List String := []
deriving Repr, DecidableEq

def Report.isEmpty (r : Report) : Bool :=
  r.written.isEmpty && r.unchanged.isEmpty && r.deleted.isEmpty

def Report.merge (r other : Report) : Report where
  written := r.written ++ other.written
  unchanged := r.unchanged ++ other.unchanged
  deleted := r.deleted ++ other.deleted

structure Site where
  filter : Filter
  locale : Locale
  store : Store := {}
  /-- The relative paths of the discovered files, for when they change. -/
  relatives : Catalog String := {}
  shelf : Shelf := {}
  /-- What was reported about the last batch of events. -/
  diagnostics : List Diagnostic := []

namespace Site

/-- An empty site. The words of the shelf count more than those of the configuration. -/
def ofConfig (c : Config) (shelf : Shelf) : Except Config.Error Site :=
  (Filter.ofConfig c).map fun filter =>
    { filter := filter, locale := shelf.locale.getD c.locale, shelf := shelf }

/-- What a file turns out to be: a source of a module, or none. -/
inductive Outcome where
  | removed (diagnostics : List Diagnostic)
  | documented (module : String) (docs : Extraction)

def forwardSlashes (path : String) : String :=
  path.map fun c => if c = '\\' then '/' else c

/-- The path to match patterns with. It is the announced one, or else the one below the source
directory. -/
def matchPath (filter : Filter) (path : String) (announced : Option String) : Option String :=
  announced.or ((filter.relative? path).map forwardSlashes)

def read (reader : Reader) (path module : String) : Outcome :=
  match reader.load path with
  | .ok text => .documented module (reader.extract ⟨path, text⟩)
  | .error e => .removed [.ofError path e]

def outcome (filter : Filter) (reader : Reader) (path : String) (announced : Option String) :
    Outcome :=
  match matchPath filter path announced, filter.module? path with
  | some relative, some module =>
    if filter.qualifies relative then read reader path module else .removed []
  | _, _ => .removed []

def settle (site : Site) (id : String) : Outcome → Site
  | .removed diagnostics =>
    { site with
      diagnostics := site.diagnostics ++ diagnostics
      store := site.store.remove id }
  | .documented module docs =>
    { site with
      diagnostics := site.diagnostics ++ docs.diagnostics
      store := site.store.upsert id module docs.records }

/-- The relative paths once an event is known. -/
def announce (relatives : Catalog String) : Event → Catalog String
  | .discovered id _ relative => relatives.insert id relative
  | .changed .. => relatives
  | .deleted id => relatives.erase id

/-- Each event with the path announced for its file by then, and the relative paths behind the
last one. -/
def jobs (relatives : Catalog String) : List Event → List (Event × Option String) × Catalog String
  | [] => ([], relatives)
  | e :: events =>
    let next := announce relatives e
    let (rest, last) := jobs next events
    ((e, next.get? e.id) :: rest, last)

def process (filter : Filter) (reader : Reader) : Event × Option String → Outcome
  | (.discovered _ path _, announced) => outcome filter reader path announced
  | (.changed _ path, announced) => outcome filter reader path announced
  | (.deleted _, _) => .removed []

/-- Applies a batch of events to the store. Paths are settled for the whole batch first, then
every file is read, and the outcomes count in the order of the events. No document changes. -/
def apply (reader : Reader) (site : Site) (events : List Event) : Site :=
  let (list, relatives) := jobs site.relatives events
  let outcomes := list.map fun job => (job.1.id, process site.filter reader job)
  outcomes.foldl (fun s o => s.settle o.1 o.2)
    { site with relatives := relatives, diagnostics := [] }

def isCurrent (shelf : Shelf) (module : String) (page : Page) (sources : List String) : Bool :=
  match shelf.document? module with
  | some d => d.fingerprint == page.fingerprint && d.sources == sources
  | none => false

/-- Brings the document of one module up to date. -/
def publish (locale : Locale) (store : Store) (state : Shelf × Report) (module : String) :
    Shelf × Report :=
  let (shelf, report) := state
  match store.bucket? module with
  | none =>
    if (shelf.document? module).isSome then
      (shelf.delete (Document.idOf module), { report with deleted := report.deleted ++ [module] })
    else (shelf, report)
  | some bucket =>
    let page := Page.render locale module bucket.records
    if isCurrent shelf module page bucket.fileIds then
      (shelf, { report with unchanged := report.unchanged ++ [module] })
    else
      (shelf.write (.ofPage module page bucket.fileIds),
        { report with written := report.written ++ [module] })

/-- Brings the documents of all marked modules up to date. -/
def flush (site : Site) : Site × Report :=
  let (dirty, store) := site.store.takeDirty
  let (shelf, report) := dirty.foldl (publish site.locale store) (site.shelf, {})
  ({ site with store := store, shelf := shelf }, report)

/-- Applies a batch and flushes. Without events there is nothing to do. -/
def run (reader : Reader) (site : Site) (events : List Event) : Site × Report :=
  if events.isEmpty then (site, {}) else (site.apply reader events).flush

/-- Takes in events until no more come. A batch is what has queued up when it starts. -/
def serve (reader : Reader) (site : Site) (batches : List (List Event)) : Site × Report :=
  batches.foldl
    (fun done batch =>
      let (next, report) := run reader done.1 batch
      (next, done.2.merge report))
    (site, {})

/-- A file known from the start. -/
structure KnownFile where
  id : String
  path : String
  relative : String
deriving Repr, DecidableEq

def KnownFile.event (f : KnownFile) : Event :=
  .discovered f.id f.path f.relative

/-- The first scan: takes all known files in and flushes. -/
def populate (reader : Reader) (site : Site) (files : List KnownFile) : Site × Report :=
  (site.apply reader (files.map KnownFile.event)).flush

end Site

end Commentary
