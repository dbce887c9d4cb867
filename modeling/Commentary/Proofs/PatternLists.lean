import Commentary.Proofs.Layering
import Commentary.Site

/-! Lists of patterns. They are looked through twice, once to check a configuration and once to make
a filter of it, and both times the first text that is no pattern is what is reported. A filter takes
what one of the patterns matches, so neither their order nor how often they come counts. Nothing
here looks into a pattern: a text is one or not, and a pattern matches a path or not. -/
namespace Commentary

namespace Config

section Compile

variable {p : String} {ps : List String} {globs : List Glob} {e : Error}

def IsPattern (p : String) : Prop :=
  ∃ glob, Glob.ofText p = .ok glob

def PatternMatches (path p : String) : Prop :=
  ∃ glob, Glob.ofText p = .ok glob ∧ glob.matches path = true

/-- The complaint about the first text of a list that is no pattern. -/
def FirstFault (ps : List String) (e : Error) : Prop :=
  ∃ front p rest why, ps = front ++ p :: rest ∧ (∀ q ∈ front, IsPattern q) ∧
    Glob.ofText p = .error why ∧ e = .invalidPattern p why.message

/-- Each text with the pattern it is. -/
def Compiled : List String → List Glob → Prop :=
  List.Forall₂ fun p glob => Glob.ofText p = .ok glob

theorem compile_broken {why : Glob.Error} (broken : Glob.ofText p = .error why)
    (rest : List String) : compile (p :: rest) = .error (.invalidPattern p why.message) := by
  rw [compile, List.mapM_cons, broken]
  rfl

theorem compile_pattern {glob : Glob} (pattern : Glob.ofText p = .ok glob) (rest : List String) :
    compile (p :: rest) = (compile rest).map (glob :: ·) := by
  rw [compile, List.mapM_cons, pattern]
  show (compile rest >>= fun globs => pure (glob :: globs)) = _
  cases compile rest <;> rfl

theorem Compiled.compile_eq (compiled : Compiled ps globs) : compile ps = .ok globs := by
  induction compiled with
  | nil => rfl
  | cons here _ ih =>
    rw [compile_pattern here, ih]
    rfl

theorem FirstFault.compile_eq (fault : FirstFault ps e) : compile ps = .error e := by
  obtain ⟨front, p, rest, why, rfl, sound, broken, rfl⟩ := fault
  induction front with
  | nil => exact compile_broken broken rest
  | cons q front ih =>
    obtain ⟨⟨glob, here⟩, later⟩ := List.forall_mem_cons.1 sound
    rw [List.cons_append, compile_pattern here, ih later]
    rfl

/- Either all texts are patterns, or there is a first one that is not. -/
theorem compiled_or_fault (ps : List String) :
    (∃ globs, Compiled ps globs) ∨ ∃ e, FirstFault ps e := by
  induction ps with
  | nil => exact .inl ⟨[], .nil⟩
  | cons p rest ih =>
    cases read : Glob.ofText p with
    | error why => exact .inr ⟨_, [], p, rest, why, rfl, nofun, read, rfl⟩
    | ok glob =>
      rcases ih with ⟨globs, compiled⟩ | ⟨e, front, q, behind, why, rfl, sound, broken, rfl⟩
      · exact .inl ⟨glob :: globs, .cons read compiled⟩
      · exact .inr ⟨_, p :: front, q, behind, why, rfl,
          List.forall_mem_cons.2 ⟨⟨glob, read⟩, sound⟩, broken, rfl⟩

theorem compile_eq_ok_iff : compile ps = .ok globs ↔ Compiled ps globs := by
  refine ⟨fun made => ?_, Compiled.compile_eq⟩
  rcases compiled_or_fault ps with ⟨others, compiled⟩ | ⟨e, fault⟩
  · cases made.symm.trans compiled.compile_eq
    exact compiled
  · cases made.symm.trans fault.compile_eq

theorem compile_eq_error_iff : compile ps = .error e ↔ FirstFault ps e := by
  refine ⟨fun said => ?_, FirstFault.compile_eq⟩
  rcases compiled_or_fault ps with ⟨globs, compiled⟩ | ⟨cause, fault⟩
  · cases said.symm.trans compiled.compile_eq
  · cases said.symm.trans fault.compile_eq
    exact fault

theorem Compiled.any_matches_iff (compiled : Compiled ps globs) (path : String) :
    (globs.any fun glob => glob.matches path) = true ↔ ∃ p ∈ ps, PatternMatches path p := by
  induction compiled with
  | nil => simp
  | @cons p glob rest more here _ ih =>
    have first : PatternMatches path p ↔ glob.matches path = true := by
      simp [PatternMatches, here]
    rw [List.any_cons, Bool.or_eq_true, ih, ← first]
    simp

theorem Compiled.of_patterns (sound : ∀ p ∈ ps, IsPattern p) : ∃ globs, Compiled ps globs := by
  rcases compiled_or_fault ps with compiled | ⟨_, front, p, rest, why, rfl, _, broken, _⟩
  · exact compiled
  · obtain ⟨glob, read⟩ := sound p (by simp)
    rw [broken] at read
    cases read

theorem Compiled.isPattern (compiled : Compiled ps globs) : ∀ p ∈ ps, IsPattern p := by
  induction compiled with
  | nil => exact nofun
  | cons here _ ih => exact List.forall_mem_cons.2 ⟨⟨_, here⟩, ih⟩

end Compile

theorem validate_eq_error_iff {c : Config} (named : c.sourceDir ≠ "") {e : Error} :
    c.validate = .error e ↔ FirstFault c.patterns.toList e := by
  rw [validate_eq, if_neg named, ← compile_eq_error_iff]
  cases compile c.patterns.toList <;> simp [Except.map]

theorem compiled_of_valid {c : Config} (valid : c.validate = .ok ()) :
    ∃ globs, Compiled c.patterns.toList globs := by
  rw [validate_eq] at valid
  split at valid
  · cases valid
  · cases made : compile c.patterns.toList with
    | error e => rw [made] at valid; cases valid
    | ok globs => exact ⟨globs, compile_eq_ok_iff.1 made⟩

theorem parts_of_bind {ε α β : Type} {x : Except ε α} {next : α → Except ε β} {b : β}
    (made : x >>= next = .ok b) : ∃ a, x = .ok a ∧ next a = .ok b := by
  cases x with
  | error e => cases made
  | ok a => exact ⟨a, rfl, made⟩

theorem valid_of_ofValue {v : Value} {c : Config} (read : ofValue v = .ok c) :
    c.validate = .ok () := by
  obtain ⟨d, _, checked⟩ := parts_of_bind read
  obtain ⟨_, valid, same⟩ := parts_of_bind checked
  cases same
  exact valid

theorem valid_of_load {root : String} {file : Option String} {vars : List (String × String)}
    {c : Config} (loaded : load root file vars = .ok c) : c.validate = .ok () := by
  obtain ⟨bottom, _, behind⟩ := parts_of_bind loaded
  obtain ⟨top, _, merged⟩ := parts_of_bind behind
  split at merged
  · cases merged
  · unfold Layer.config at merged
    split at merged
    · cases merged
    · obtain ⟨_, valid, same⟩ := parts_of_bind merged
      cases same
      exact valid

theorem toList_add (p : String) (patterns : Patterns) :
    (patterns.add p).toList = patterns.toList ++ [p] := by
  cases patterns <;> rfl

/-- A configuration with more patterns, added one by one. -/
def adding (c : Config) (ps : List String) : Config :=
  ps.foldl withPattern c

theorem toList_adding (c : Config) (ps : List String) :
    (c.adding ps).patterns.toList = c.patterns.toList ++ ps := by
  induction ps generalizing c with
  | nil => exact (List.append_nil _).symm
  | cons p rest ih =>
    show ((c.withPattern p).adding rest).patterns.toList = _
    rw [ih, withPattern, toList_add, List.append_assoc]
    rfl

end Config

namespace Filter

open Config

variable {c : Config} {f : Filter}

theorem ofConfig_eq_error_iff {e : Config.Error} :
    ofConfig c = .error e ↔ FirstFault c.patterns.toList e := by
  rw [ofConfig, ← compile_eq_error_iff]
  cases compile c.patterns.toList <;> simp [Except.map]

theorem ofConfig_of_compiled {globs : List Glob} (compiled : Compiled c.patterns.toList globs) :
    ofConfig c = .ok ⟨c.sourceDir, globs⟩ := by
  rw [ofConfig, compiled.compile_eq]
  rfl

theorem compiled_of_ofConfig (made : ofConfig c = .ok f) :
    Compiled c.patterns.toList f.patterns := by
  rw [ofConfig] at made
  cases compiled : compile c.patterns.toList with
  | error e => rw [compiled] at made; cases made
  | ok globs =>
    rw [compiled] at made
    cases made
    exact compile_eq_ok_iff.1 compiled

theorem qualifies_iff (made : ofConfig c = .ok f) (path : String) :
    f.qualifies path = true ↔ hasSourceExtension path = true ∧
      (c.patterns.toList = [] ∨ ∃ p ∈ c.patterns.toList, PatternMatches path p) := by
  have compiled := compiled_of_ofConfig made
  have none : f.patterns.isEmpty = true ↔ c.patterns.toList = [] := by
    rw [List.isEmpty_iff, ← List.length_eq_zero_iff, ← List.length_eq_zero_iff,
      List.Forall₂.length_eq compiled]
  rw [qualifies, Bool.and_eq_true, Bool.or_eq_true, none, compiled.any_matches_iff]

/-- Filters of the same patterns, in whatever order and however often, take the same paths. -/
theorem qualifies_congr {d : Config} (made : ofConfig c = .ok f)
    (same : ∀ p, p ∈ c.patterns.toList ↔ p ∈ d.patterns.toList) :
    ∃ g, ofConfig d = .ok g ∧ ∀ path, g.qualifies path = f.qualifies path := by
  have sound := (compiled_of_ofConfig made).isPattern
  obtain ⟨globs, compiled⟩ := Compiled.of_patterns fun p member => sound p ((same p).2 member)
  have other := ofConfig_of_compiled compiled
  refine ⟨_, other, fun path => ?_⟩
  rw [Bool.eq_iff_iff, qualifies_iff other, qualifies_iff made]
  simp only [List.eq_nil_iff_forall_not_mem, same]

end Filter

theorem Site.ofConfig_of_valid {c : Config} (valid : c.validate = .ok ()) (root : String)
    (shelf : Shelf) :
    (∃ site, Site.ofConfig c shelf = .ok site) ∧
      ∃ site, Site.ofConfig (c.resolve root) shelf = .ok site := by
  obtain ⟨globs, compiled⟩ := Config.compiled_of_valid valid
  have made := Filter.ofConfig_of_compiled compiled
  have resolved : Filter.ofConfig (c.resolve root) = .ok ⟨(c.resolve root).sourceDir, globs⟩ :=
    Filter.ofConfig_of_compiled compiled
  simp [Site.ofConfig, made, resolved, Except.map]

/-- A filter can be made of a configuration exactly when the configuration is valid, and the
complaint is the same, that about the first text that is no pattern. So a site can be made of every
configuration that was read or loaded. Patterns that are added one by one are all there in this
order, and a filter of them takes the paths of sources that one of them matches, or all of them if
there is none. -/
theorem Filter.made_of_valid_patterns :
    (∀ (c : Config) (e : Config.Error), c.sourceDir ≠ "" →
      (Filter.ofConfig c = .error e ↔ c.validate = .error e) ∧
      (c.validate = .error e ↔ Config.FirstFault c.patterns.toList e)) ∧
    (∀ c : Config, ((∃ v, Config.ofValue v = .ok c) ∨
        ∃ root file vars, Config.load root file vars = .ok c) →
      ∀ (root : String) (shelf : Shelf), (∃ site, Site.ofConfig c shelf = .ok site) ∧
        ∃ site, Site.ofConfig (c.resolve root) shelf = .ok site) ∧
    ∀ (c : Config) (ps : List String), c.patterns = .none →
      (c.adding ps).patterns.toList = ps ∧
      ((∀ p ∈ ps, Config.IsPattern p) → ∃ f, Filter.ofConfig (c.adding ps) = .ok f ∧
        ∀ path, f.qualifies path = true ↔ Filter.hasSourceExtension path = true ∧
          (ps = [] ∨ ∃ p ∈ ps, Config.PatternMatches path p)) ∧
      ∀ (qs : List String) (f : Filter), (∀ p, p ∈ ps ↔ p ∈ qs) →
        Filter.ofConfig (c.adding ps) = .ok f →
        ∃ g, Filter.ofConfig (c.adding qs) = .ok g ∧
          ∀ path, g.qualifies path = f.qualifies path := by
  refine ⟨fun c e named => ?_, fun c made root shelf => ?_, fun c ps bare => ?_⟩
  · have checked := Config.validate_eq_error_iff named (e := e)
    exact ⟨Filter.ofConfig_eq_error_iff.trans checked.symm, checked⟩
  · have valid : c.validate = .ok () := by
      rcases made with ⟨v, read⟩ | ⟨root, file, vars, loaded⟩
      · exact Config.valid_of_ofValue read
      · exact Config.valid_of_load loaded
    exact Site.ofConfig_of_valid valid root shelf
  · have added (ps : List String) : (c.adding ps).patterns.toList = ps := by
      rw [Config.toList_adding, bare]
      rfl
    refine ⟨added ps, fun sound => ?_, fun qs f same made => ?_⟩
    · rw [← added ps] at sound
      obtain ⟨globs, compiled⟩ := Config.Compiled.of_patterns sound
      have made := Filter.ofConfig_of_compiled compiled
      refine ⟨_, made, fun path => ?_⟩
      rw [Filter.qualifies_iff made, added]
    · exact Filter.qualifies_congr made (by simpa only [added] using same)

/-- The same two patterns in another order and one of them twice, and a list whose second text is
no pattern. -/
theorem Filter.repeated_patterns_qualify_alike :
    let c : Config := { sourceDir := "src" }
    let broken := c.adding ["a/*", "[", "***"]
    let e := Config.Error.invalidPattern "[" "invalid range pattern"
    broken.sourceDir ≠ "" ∧ broken.validate = .error e ∧ Filter.ofConfig broken = .error e ∧
      Config.ofValue c.toValue = .ok c ∧ (∃ site, Site.ofConfig (c.resolve "/r") {} = .ok site) ∧
      ∃ f g, Filter.ofConfig (c.adding ["a/*", "b.?s"]) = .ok f ∧
        Filter.ofConfig (c.adding ["b.?s", "a/*", "b.?s"]) = .ok g ∧
        f.qualifies "b.ts" = true ∧ ∀ path, g.qualifies path = f.qualifies path := by
  intro c broken e
  obtain ⟨checked, made, lists⟩ := made_of_valid_patterns
  have named : broken.sourceDir ≠ "" := by decide
  have invalid : broken.validate = .error e := by decide +kernel
  have read : Config.ofValue c.toValue = .ok c := by decide +kernel
  obtain ⟨_, filtered, alike⟩ := lists c ["a/*", "b.?s"] rfl
  have first : Config.IsPattern "a/*" := ⟨⟨[.char 'a', .char '/', .anyRun]⟩, by decide +kernel⟩
  have second : Config.IsPattern "b.?s" :=
    ⟨⟨[.char 'b', .char '.', .any, .char 's']⟩, by decide +kernel⟩
  obtain ⟨f, compiled, takes⟩ := filtered (by simp [first, second])
  obtain ⟨g, again, same⟩ := alike ["b.?s", "a/*", "b.?s"] f (by simp [or_comm]) compiled
  have matched : Config.PatternMatches "b.ts" "b.?s" :=
    ⟨⟨[.char 'b', .char '.', .any, .char 's']⟩, by decide +kernel, by decide +kernel⟩
  have taken : f.qualifies "b.ts" = true :=
    (takes "b.ts").2 ⟨by decide +kernel, .inr ⟨"b.?s", by simp, matched⟩⟩
  exact ⟨named, invalid, (checked broken e named).1.2 invalid, read,
    (made c (.inl ⟨_, read⟩) "/r" {}).2, f, g, compiled, again, taken, same⟩

end Commentary
