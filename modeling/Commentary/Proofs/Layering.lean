import Commentary.Discovery
import Commentary.Proofs.Fields
import Mathlib.Control.Monad.Basic

/-! The two ways to a configuration. Settings found in a root directory, written as one value, are
read from that value to the same effect, errors included. There is one exception, an empty source
directory: in a value it is no directory, but seen from a root it is the root. -/
namespace Commentary

open Value

def Patterns.value? : Patterns → Option Value
  | .none => Option.none
  | .one p => some (.text p)
  | .many ps => some (texts ps)

theorem Patterns.ofValue_value? (patterns : Patterns) :
    readOr Patterns.ofValue .none patterns.value? = .ok patterns := by
  cases patterns with
  | none => rfl
  | one p => rfl
  | many ps =>
    have read : (ps.map Value.text).mapM (asText "a string") = .ok ps := by
      rw [List.mapM_map]
      exact (List.mapM_pure ..).trans (congrArg Except.ok (List.map_id ps))
    have all : (ps.map Value.text).all isText = true := by
      simp [isText]
    simp [value?, readOr, texts, Patterns.ofValue, all, read, Except.map]

def LocaleOverrides.value? (o : LocaleOverrides) : Option Value :=
  if o = {} then none
  else some (.fields (field? "Params" .text o.params ++ field? "Returns" .text o.returns ++
    field? "Example" .text o.examples ++ field? "Optional" .text o.optional ++
    field? "DefaultAs" .text o.defaultAs))

theorem LocaleOverrides.ofValue_value? (exact : Bool) (o : LocaleOverrides) :
    readOr (ofValue exact) {} o.value? = .ok o := by
  unfold value?
  split
  · rename_i unset
    rw [unset]
    rfl
  · obtain ⟨params, returns, examples, optional, defaultAs⟩ := o
    cases params <;> cases returns <;> cases examples <;> cases optional <;> cases defaultAs <;> rfl

namespace Layer

def entries (l : Layer) : List (String × Value) :=
  field? "sourceDir" .text l.sourceDir ++
    (field? "match" id l.patterns.value? ++ field? "i18n" id l.words.value?)

/-- A layer as a value, without what it does not set. -/
def toValue (l : Layer) : Value :=
  .fields l.entries

theorem decode_toValue (l : Layer) :
    Config.decode l.toValue =
      match l.sourceDir with
      | some sourceDir => .ok ⟨sourceDir, l.patterns, l.words⟩
      | none => .error (.missing "sourceDir") := by
  have words : l.entries.lookup "i18n" = l.words.value? := by
    simp [entries, lookup_written, lookup_last_written]
  have patterns : l.entries.lookup "match" = l.patterns.value? := by
    simp [entries, lookup_written, lookup_last_written]
  have main : l.entries.lookup "sourceDir" = l.sourceDir.map .text := by
    simp [entries, lookup_written, lookup_last_written]
  have other : l.entries.lookup "source_dir" = none := by
    simp [entries, lookup_written, lookup_last_written]
  show Config.ofFields l.entries = _
  rw [Config.ofFields, Config.namedSourceDir, words, patterns, main, other,
    LocaleOverrides.ofValue_value?, Patterns.ofValue_value?]
  cases l.sourceDir <;> rfl

end Layer

namespace Config

theorem validate_eq (c : Config) :
    c.validate =
      if c.sourceDir = "" then .error .missingSourceDir
      else (compile c.patterns.toList).map fun _ => () := by
  unfold validate
  by_cases empty : c.sourceDir = ""
  · simp [empty]
    rfl
  · simp only [String.isEmpty_iff, empty]
    cases compile c.patterns.toList <;> rfl

/- The only complaint about patterns is that one of them is no pattern. -/
theorem compile_ne_missing (patterns : List String) :
    compile patterns ≠ .error .missingSourceDir := by
  induction patterns with
  | nil => exact nofun
  | cons p rest ih =>
    unfold compile at ih ⊢
    rw [List.mapM_cons]
    cases Glob.ofText p with
    | error e => exact nofun
    | ok glob =>
      intro missing
      cases more : rest.mapM fun p => (Glob.ofText p).mapError fun e =>
          Error.invalidPattern p e.message with
      | error e =>
        rw [more] at missing ih
        cases missing
        exact ih rfl
      | ok globs =>
        rw [more] at missing
        cases missing

theorem missing_is_missingSourceDir :
    ofMismatch (.missing "sourceDir") = .missingSourceDir := by
  decide

end Config

theorem Path.resolve_ne_empty {root : String} (absolute : isAbsolute root = true) (path : String) :
    resolve root path ≠ "" := by
  have nonempty {p : String} (slash : isAbsolute p = true) : p ≠ "" := by
    rintro rfl
    cases slash
  unfold resolve
  split
  · rename_i own
    exact nonempty own
  · split
    · simp [nonempty absolute]
    · simp

namespace Layer

theorem ofValue_toValue (l : Layer) :
    Config.ofValue l.toValue =
      match l.sourceDir with
      | none => .error .missingSourceDir
      | some sourceDir =>
        if sourceDir = "" then .error .missingSourceDir
        else (Config.compile l.patterns.toList).map fun _ => ⟨sourceDir, l.patterns, l.words⟩ := by
  unfold Config.ofValue
  rw [decode_toValue]
  cases l.sourceDir with
  | none => exact congrArg Except.error Config.missing_is_missingSourceDir
  | some sourceDir =>
    show (Config.validate ⟨sourceDir, l.patterns, l.words⟩ >>= fun _ => _) = _
    rw [Config.validate_eq]
    by_cases empty : sourceDir = ""
    · simp only [empty, if_true]
      rfl
    · simp only [empty, if_false]
      cases Config.compile l.patterns.toList <;> rfl

theorem config_eq (l : Layer) {root : String} (absolute : Path.isAbsolute root = true) :
    l.config root =
      match l.sourceDir with
      | none => .error .missingSourceDir
      | some sourceDir => (Config.compile l.patterns.toList).map fun _ =>
          Config.resolve ⟨sourceDir, l.patterns, l.words⟩ root := by
  unfold config
  cases l.sourceDir with
  | none => rfl
  | some sourceDir =>
    -- Behind an absolute root nothing is empty, so the check for it never applies.
    have anchored := Path.resolve_ne_empty absolute sourceDir
    simp only [Config.validate_eq, Config.resolve, anchored, if_false]
    cases Config.compile l.patterns.toList <;> rfl

theorem config_eq_ofValue (l : Layer) {root : String} (absolute : Path.isAbsolute root = true)
    (named : l.sourceDir ≠ some "") :
    l.config root = (Config.ofValue l.toValue).map (·.resolve root) := by
  rw [l.config_eq absolute, ofValue_toValue]
  cases dir : l.sourceDir with
  | none => rfl
  | some sourceDir =>
    have nonempty : sourceDir ≠ "" := by
      rintro rfl
      exact named dir
    simp only [nonempty, if_false]
    cases Config.compile l.patterns.toList <;> rfl

theorem config_of_empty (l : Layer) {root : String} (absolute : Path.isAbsolute root = true)
    (empty : l.sourceDir = some "") :
    Config.ofValue l.toValue = .error .missingSourceDir ∧
      l.config root = (Config.compile l.patterns.toList).map fun _ =>
        Config.resolve ⟨"", l.patterns, l.words⟩ root := by
  rw [l.config_eq absolute, ofValue_toValue, empty]
  exact ⟨rfl, rfl⟩

/-- Each setting on its own: that of the top if it is there, and otherwise that of the bottom. -/
def fieldwise (bottom top : Layer) : Layer where
  sourceDir := if top.sourceDir.isSome then top.sourceDir else bottom.sourceDir
  patterns := if top.patterns = .none then bottom.patterns else top.patterns
  words := {
    params := if top.words.params.isSome then top.words.params else bottom.words.params
    returns := if top.words.returns.isSome then top.words.returns else bottom.words.returns
    examples := if top.words.examples.isSome then top.words.examples else bottom.words.examples
    optional := if top.words.optional.isSome then top.words.optional else bottom.words.optional
    defaultAs := if top.words.defaultAs.isSome then top.words.defaultAs
      else bottom.words.defaultAs }

theorem overlay_eq_fieldwise (bottom top : Layer) : bottom.overlay top = bottom.fieldwise top := by
  have or_eq (a b : Option String) : a.or b = if a.isSome then a else b := by
    cases a <;> rfl
  have patterns : bottom.patterns.overlay top.patterns =
      if top.patterns = .none then bottom.patterns else top.patterns := by
    cases top.patterns <;> rfl
  simp only [overlay, LocaleOverrides.overlay, fieldwise, or_eq, patterns]

end Layer

namespace Config

theorem load_eq_config {root : String} {file : Option String} {vars : List (String × String)}
    {bottom top : Layer} (found : (file.map Layer.ofFile).getD (.ok {}) = .ok bottom)
    (set : Layer.ofEnvironment vars = .ok top) (present : file.isSome = true ∨ top ≠ {}) :
    load root file vars = (bottom.fieldwise top).config root := by
  have here : ¬ (file.isNone && top == {}) = true := by
    cases file <;> simp_all
  unfold load
  rw [found, set]
  simp only [bind, Except.bind, here, Layer.overlay_eq_fieldwise]
  rfl

/-- For every absolute root, the configuration that is loaded there is the one that the settings
give as a value, seen from the root, and where one of them is an error, the other is the same
error. Only an empty source directory makes a difference: the value is rejected for it, but
loading takes it for the root. -/
theorem load_agrees_unless_empty (root : String) (file : Option String)
    (vars : List (String × String)) (bottom top : Layer)
    (absolute : Path.isAbsolute root = true)
    (found : (file.map Layer.ofFile).getD (.ok {}) = .ok bottom)
    (set : Layer.ofEnvironment vars = .ok top) (present : file.isSome = true ∨ top ≠ {}) :
    let merged := bottom.fieldwise top
    (load root file vars = (ofValue merged.toValue).map (·.resolve root) ↔
      merged.sourceDir ≠ some "") ∧
    (merged.sourceDir = some "" →
      ofValue merged.toValue = .error .missingSourceDir ∧
      load root file vars = (compile merged.patterns.toList).map fun _ =>
        resolve ⟨"", merged.patterns, merged.words⟩ root) := by
  intro merged
  rw [load_eq_config found set present]
  refine ⟨⟨?_, merged.config_eq_ofValue absolute⟩, merged.config_of_empty absolute⟩
  -- With an empty directory one side says that it is missing, which the other never says.
  intro same empty
  obtain ⟨rejected, loaded⟩ := merged.config_of_empty absolute empty
  rw [loaded, rejected] at same
  cases compiled : compile merged.patterns.toList with
  | error e =>
    rw [compiled] at same
    cases same
    exact compile_ne_missing _ compiled
  | ok globs =>
    rw [compiled] at same
    cases same

/-- Both layers set a source directory and a word each. -/
theorem overridden_settings_agree :
    let file := "sourceDir = \"src\"\nmatch = \"*.ts\"\n[i18n]\nReturns = \"R\"\n"
    let vars := [("DOCKET_SOURCE_DIR", "lib"), ("DOCKET_I18N__PARAMS", "P")]
    let bottom : Layer :=
      { sourceDir := some "src", patterns := .one "*.ts", words := { returns := some "R" } }
    let top : Layer := { sourceDir := some "lib", words := { params := some "P" } }
    Layer.ofFile file = .ok bottom ∧ Layer.ofEnvironment vars = .ok top ∧
      (bottom.fieldwise top).sourceDir = some "lib" ∧
      load "/r" (some file) vars =
        (ofValue (bottom.fieldwise top).toValue).map (·.resolve "/r") := by
  intro file vars bottom top
  have found : Layer.ofFile file = .ok bottom := by decide +kernel
  have set : Layer.ofEnvironment vars = .ok top := by decide +kernel
  have dir : (bottom.fieldwise top).sourceDir = some "lib" := rfl
  have agree := load_agrees_unless_empty "/r" (some file) vars bottom top (by decide) found set
    (.inl rfl)
  exact ⟨found, set, dir, agree.1.2 (by rw [dir]; decide)⟩

/-- A settings file with an empty source directory loads, although the same settings are no
configuration. -/
theorem empty_sourceDir_loads :
    Layer.ofFile "sourceDir = \"\"" = .ok { sourceDir := some "" } ∧
      ofValue (Layer.toValue { sourceDir := some "" }) = .error .missingSourceDir ∧
      load "/r" (some "sourceDir = \"\"") [] = .ok { sourceDir := "/r/" } := by
  refine ⟨?_, ?_, ?_⟩ <;> decide +kernel

end Config

end Commentary
