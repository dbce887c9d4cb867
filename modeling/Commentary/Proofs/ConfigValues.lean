import Commentary.Proofs.Layering

/-! Configurations as values and back. A configuration is read from the value it is written as,
whatever order the fields have there, and it is checked on the way, so that what comes out is the
configuration itself or the complaint about it. -/
namespace Commentary

open Value

namespace LocaleOverrides

theorem word?_textOrNull (word : Option String) : word? (textOrNull word) = .ok word := by
  cases word <;> rfl

/- Of all spellings only the main ones are there, so none comes twice. -/
theorem chosen_of_fields (o : LocaleOverrides) :
    spellings.foldlM (choose o.fields) [] = .ok [(.returns, o.returns), (.params, o.params),
      (.optional, o.optional), (.examples, o.examples), (.defaultAs, o.defaultAs)] := by
  have test (w v : Word) : (w == v) = decide (w = v) := by
    cases w <;> cases v <;> rfl
  simp [spellings, choose, fields, List.lookup_cons, word?_textOrNull, test, Except.map, bind,
    Except.bind, pure, Except.pure]

theorem ofValue_of_perm (exact : Bool) {o : LocaleOverrides} {words : List (String × Value)}
    (order : words.Perm o.fields) : ofValue exact (.fields words) = .ok o := by
  have distinct : (o.fields.map Prod.fst).Nodup := by
    show ["Params", "Returns", "Example", "Optional", "DefaultAs"].Nodup
    decide
  have same : choose words = choose o.fields := by
    funext chosen spelling
    rw [choose, choose, lookup_of_perm order distinct]
  rw [ofValue, same, chosen_of_fields]
  rfl

end LocaleOverrides

namespace Config

def fields (c : Config) (words : Value) : List (String × Value) :=
  [("sourceDir", .text c.sourceDir)] ++ field? "match" id c.patterns.value? ++ [("i18n", words)]

/-- How a configuration is written: the source directory, the patterns if there are any, and all
words with a null for those that are not set. The fields have no order. -/
inductive Written (c : Config) : Value → Prop
  | fields {entries words : List (String × Value)} (inner : words.Perm c.words.fields)
    (order : entries.Perm (c.fields (.fields words))) : c.Written (.fields entries)

theorem written_toValue (c : Config) : c.Written c.toValue := by
  have whole : c.toValue = .fields (c.fields (.fields c.words.fields)) := by
    unfold toValue fields
    cases c.patterns <;> rfl
  rw [whole]
  exact .fields (.refl _) (.refl _)

theorem decode_written {c : Config} {v : Value} (written : c.Written v) : decode v = .ok c := by
  obtain @⟨entries, words, inner, order⟩ := written
  have distinct : ((c.fields (.fields words)).map Prod.fst).Nodup := by
    unfold fields
    cases c.patterns <;> simp [field?, Patterns.value?]
  have found (field : String) := lookup_of_perm order distinct field
  have i18n : entries.lookup "i18n" = some (.fields words) := by
    simp [found, fields, List.lookup_cons, lookup_written]
  have patterns : entries.lookup "match" = c.patterns.value? := by
    simp [found, fields, List.lookup_cons, lookup_written]
  have main : entries.lookup "sourceDir" = some (.text c.sourceDir) := by
    simp [found, fields]
  have other : entries.lookup "source_dir" = none := by
    simp [found, fields, List.lookup_cons, lookup_written]
  show ofFields entries = _
  rw [ofFields, namedSourceDir, i18n, patterns, main, other, readOr,
    LocaleOverrides.ofValue_of_perm true inner, Patterns.ofValue_value?]
  rfl

theorem ofValue_eq_validate {c : Config} {v : Value} (read : decode v = .ok c) :
    ofValue v = c.validate.map fun _ => c := by
  rw [ofValue, read]
  show (c.validate >>= fun _ => pure c) = _
  cases c.validate <;> rfl

/-- Every configuration is read from the value it is written as: to the same configuration if it is
valid, and to the same complaint as its validation gives if it is not. No value is written for two
configurations, so a single pattern is not mixed up with a list of one. -/
theorem written_config_read_again (c : Config) :
    c.Written c.toValue ∧
    (∀ v, c.Written v → (c.validate = .ok () → ofValue v = .ok c) ∧
      ∀ e, c.validate = .error e → ofValue v = .error e) ∧
    ∀ (d : Config) (v : Value), c.Written v → d.Written v → d = c := by
  refine ⟨c.written_toValue, fun v written => ?_, fun d v first second => ?_⟩
  · rw [ofValue_eq_validate (decode_written written)]
    constructor
    · intro valid
      rw [valid]
      rfl
    · intro e invalid
      rw [invalid]
      rfl
  · have both := (decode_written second).symm.trans (decode_written first)
    exact Except.ok.inj both

/-- One pattern, a list of that pattern, and a list with a pattern that is none. -/
theorem single_and_listed_pattern_read_again :
    let single : Config :=
      { sourceDir := "src", patterns := .one "a?", words := { returns := some "R" } }
    let listed : Config := { single with patterns := .many ["a?"] }
    let broken : Config := { single with patterns := .many ["a?", "["] }
    let sorted := Value.fields (single.fields (.fields single.words.fields)).reverse
    let e := Error.invalidPattern "[" "invalid range pattern"
    single.Written sorted ∧ single.validate = .ok () ∧ listed.validate = .ok () ∧
      broken.validate = .error e ∧ ofValue sorted = .ok single ∧
      ofValue listed.toValue = .ok listed ∧ ofValue broken.toValue = .error e := by
  intro single listed broken sorted e
  have written : single.Written sorted := .fields (.refl _) (List.reverse_perm _)
  have first : single.validate = .ok () := by decide +kernel
  have second : listed.validate = .ok () := by decide +kernel
  have third : broken.validate = .error e := by decide +kernel
  exact ⟨written, first, second, third, ((written_config_read_again single).2.1 _ written).1 first,
    ((written_config_read_again listed).2.1 _ listed.written_toValue).1 second,
    ((written_config_read_again broken).2.1 _ broken.written_toValue).2 e third⟩

end Config

end Commentary
