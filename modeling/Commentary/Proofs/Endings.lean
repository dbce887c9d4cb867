import Commentary.Page
import Commentary.Proofs.WellFormed

/-! How a page ends. Whatever comes last on it, a title, a heading, an entry with or without a
description, or an example, has something on its last line; so the line feed behind it is the only
one at the end of the page. -/
namespace Commentary.Text

/-- There is something on the last line of the text. -/
def Stops (text : String) : Prop :=
  ∃ c, text.toList.getLast? = some c ∧ c ≠ '\n'

/-- The text ends in one line feed, and the line before it is not empty. -/
def EndsOnce (text : String) : Prop :=
  ∃ body, text = body ++ "\n" ∧ body.toList.getLast? ≠ some '\n' ∧
    ∃ line, (cut '\n' body.toList).getLast? = some line ∧ line ≠ []

section LastLine

variable {text : List Char} {c : Char}

theorem last_of_ne {first : Char} (last : (first :: text).getLast? = some c) (other : c ≠ first) :
    text.getLast? = some c := by
  cases text with
  | nil => exact absurd (Option.some.inj last).symm other
  | cons next rest => rwa [List.getLast?_cons_cons] at last

theorem last_pushFirst (first : Char) {pieces : List (List Char)} {line : List Char}
    (last : pieces.getLast? = some line) :
    ∃ lead, (pushFirst first pieces).getLast? = some (lead ++ line) := by
  match pieces, last with
  | [_], last =>
    cases last
    exact ⟨[first], rfl⟩
  | piece :: next :: more, last => exact ⟨[], by rwa [pushFirst, List.getLast?_cons_cons]⟩

theorem last_cut {separator : Char} (last : text.getLast? = some c) (other : c ≠ separator) :
    ∃ line, (cut separator text).getLast? = some line ∧ line.getLast? = some c := by
  induction text with
  | nil => cases last
  | cons first rest ih =>
    rw [cut]
    split
    · rename_i feed
      obtain ⟨line, found, ended⟩ := ih (last_of_ne last (feed ▸ other))
      exact ⟨line, by simp [List.getLast?_cons, found], ended⟩
    · cases rest with
      | nil => exact ⟨[first], rfl, last⟩
      | cons next rest =>
        obtain ⟨line, found, ended⟩ := ih (by rwa [List.getLast?_cons_cons] at last)
        obtain ⟨lead, pushed⟩ := last_pushFirst first found
        exact ⟨lead ++ line, pushed, by simp [List.getLast?_append, ended]⟩

theorem last_lines (last : text.getLast? = some c) (other : c ≠ '\n') :
    ∃ row, (lines text).getLast? = some row ∧ row.getLast? = some c := by
  fun_induction lines text with
  | case1 => cases last
  | case2 rest ih =>
    obtain ⟨row, found, ended⟩ := ih (last_of_ne last other)
    exact ⟨row, by simp [List.getLast?_cons, found], ended⟩
  | case3 rest ih =>
    rw [List.getLast?_cons_cons] at last
    obtain ⟨row, found, ended⟩ := ih (last_of_ne last other)
    exact ⟨row, by simp [List.getLast?_cons, found], ended⟩
  | case4 first rest _ _ ih =>
    cases rest with
    | nil => exact ⟨[first], rfl, last⟩
    | cons next rest =>
      obtain ⟨row, found, ended⟩ := ih (by rwa [List.getLast?_cons_cons] at last)
      obtain ⟨lead, pushed⟩ := last_pushFirst first found
      exact ⟨lead ++ row, pushed, by simp [List.getLast?_append, ended]⟩

end LastLine

namespace Stops

variable {a b : String}

theorem endsOnce (stops : Stops a) : EndsOnce (a ++ "\n") := by
  obtain ⟨c, last, other⟩ := stops
  obtain ⟨line, found, ended⟩ := last_cut last other
  refine ⟨a, rfl, by simpa [last] using other, line, found, ?_⟩
  rintro rfl
  cases ended

theorem append_left (stops : Stops b) (a : String) : Stops (a ++ b) := by
  obtain ⟨c, last, other⟩ := stops
  exact ⟨c, by simp [List.getLast?_append, last], other⟩

theorem append_right (stops : Stops a) (ended : b.toList.getLast? ≠ some '\n') :
    Stops (a ++ b) := by
  obtain ⟨c, last, other⟩ := stops
  cases behind : b.toList.getLast? with
  | none => exact ⟨c, by simp [List.getLast?_append, last, behind], other⟩
  | some d =>
    rw [behind] at ended
    exact ⟨d, by simp [List.getLast?_append, behind], by simpa using ended⟩

theorem join {texts : List String} {t : String} (final : texts.getLast? = some t)
    (stops : Stops t) : Stops (String.join texts) := by
  obtain ⟨c, last, other⟩ := stops
  obtain ⟨front, rfl⟩ := List.getLast?_eq_some_iff.1 final
  exact ⟨c, by simp [String.toList_join, List.getLast?_append, last], other⟩

theorem intercalate {texts : List String} (some_text : texts ≠ [])
    (each : ∀ t ∈ texts, Stops t) (separator : String) : Stops (separator.intercalate texts) := by
  induction texts with
  | nil => exact absurd rfl some_text
  | cons text more ih =>
    obtain ⟨here, later⟩ := List.forall_mem_cons.1 each
    cases more with
    | nil => simpa using here
    | cons next others =>
      rw [String.intercalate_cons_cons]
      exact (ih (List.cons_ne_nil _ _) later).append_left _

end Stops

theorem stops_trimEnd {text : List Char} (filled : isBlankLine text = false) :
    Stops (String.ofList (trimEnd text)) := by
  have something : trimEnd text ≠ [] := by simp [trimEnd_eq_nil_iff, filled]
  have last := List.getLast?_eq_some_getLast something
  have visible : isBlank ((trimEnd text).getLast something) = false := last_rdropWhile last
  refine ⟨_, by rw [String.toList_ofList, last], fun feed => ?_⟩
  rw [feed] at visible
  cases visible

theorem stops_nonBlank {text : List Char} {t : String} (kept : nonBlank text = some t) :
    Stops t := by
  obtain ⟨something, rfl⟩ := nonBlank_eq_some kept
  refine stops_trimEnd (Bool.eq_false_iff.2 fun blank => something ?_)
  exact trimEnd_eq_nil_iff.2 blank

end Commentary.Text

namespace Commentary.Page

open Text

theorem stops_code (value : String) : Stops (code value) := by
  unfold code
  split
  · exact Stops.append_left ⟨backtick, rfl, by decide⟩ _
  · refine Stops.append_left ⟨backtick, ?_, by decide⟩ _
    simp [List.getLast?_replicate]

theorem stops_entryLine (locale : Locale) (p : Param) :
    entryLine locale p = "" ∨ Stops (entryLine locale p) := by
  have parts {list : List String} (each : ∀ t ∈ list, Stops t) :
      " ".intercalate list = "" ∨ Stops (" ".intercalate list) := by
    cases list with
    | nil => exact .inl rfl
    | cons first more => exact .inr (Stops.intercalate (List.cons_ne_nil _ _) each _)
  refine parts ?_
  simp only [List.forall_mem_append]
  refine ⟨⟨⟨?_, ?_⟩, ?_⟩, ?_⟩
  · split <;> simp [stops_code]
  · have star : Stops "*" := ⟨'*', rfl, by decide⟩
    split <;> simp [star.append_left]
  · have bracket : Stops ")" := ⟨')', rfl, by decide⟩
    split <;> simp [bracket.append_left]
  · cases p.default <;> simp [(stops_code _).append_left]

theorem stops_indent {row : List Char} {c : Char} (last : row.getLast? = some c)
    (other : c ≠ '\n') : Stops (indent row) := by
  have something : row.isEmpty = false := by
    cases row with
    | nil => cases last
    | cons => rfl
  rw [indent, something]
  exact Stops.append_left ⟨c, by rw [String.toList_ofList, last], other⟩ _

theorem stops_entry (locale : Locale) (p : Param) : Stops (entry locale p) := by
  rw [entry, entryDesc]
  split
  · rename_i text said
    obtain ⟨desc, _, kept⟩ := Option.bind_eq_some_iff.1 said
    obtain ⟨c, last, other⟩ := stops_nonBlank kept
    obtain ⟨row, final, ended⟩ := last_lines last other
    have rows : ((lines text.toList).map indent).getLast? = some (indent row) := by
      rw [List.getLast?_map, final]
      rfl
    exact ((Stops.join rows (stops_indent ended other)).append_left _).append_left _
  · have dash : Stops "\n\n- " := ⟨' ', by decide, by decide⟩
    rw [String.append_empty]
    rcases stops_entryLine locale p with empty | stops
    · rw [empty, String.append_empty]
      exact dash
    · exact stops.append_left _

/- A list of texts that all stop, written behind a heading. -/
theorem stops_listed {texts : List String} (some_text : texts ≠ []) (each : ∀ t ∈ texts, Stops t)
    (heading : String) : Stops (heading ++ String.join texts) := by
  have last := List.getLast?_eq_some_getLast some_text
  exact (Stops.join last (each _ (List.getLast_mem some_text))).append_left heading

theorem stops_entries (locale : Locale) (title : String) {list : List Param}
    (some_entry : list ≠ []) : Stops (entries locale title list) := by
  refine stops_listed (by simpa using some_entry) ?_ _
  simp [stops_entry]

end Commentary.Page

namespace Commentary

open Text

/-- What a record must not bring along for its page to end well. -/
structure Record.Presentable (r : Record) : Prop where
  name : r.name.toList.getLast? ≠ some '\n'
  label : ∀ label, r.label = some label → label.toList.getLast? ≠ some '\n'
  examples : ∀ text ∈ r.examples, isBlankLine text.toList = false

namespace Record.Presentable

variable {r : Record}

theorem displayName (presentable : r.Presentable) :
    r.displayName.toList.getLast? ≠ some '\n' := by
  unfold Record.displayName
  cases label : r.label with
  | none => exact presentable.name
  | some shown => exact presentable.label shown label

theorem sections (presentable : r.Presentable) (locale : Locale) :
    ∀ t ∈ Page.sections locale r, Stops t := by
  simp only [Page.sections, List.forall_mem_append]
  refine ⟨⟨⟨⟨?_, ?_⟩, ?_⟩, ?_⟩, ?_⟩
  · have marks : Stops "## " := ⟨' ', by decide, by decide⟩
    split <;> simp [marks.append_right presentable.displayName]
  · intro t said
    obtain ⟨desc, _, kept⟩ := Option.bind_eq_some_iff.1 (Option.mem_toList.1 said)
    exact stops_nonBlank kept
  · split
    · simp
    · rename_i something
      have listed : r.params ≠ [] := fun nothing => something (by rw [nothing]; rfl)
      simp [Page.stops_entries locale _ listed]
  · cases r.returns <;> simp [Page.stops_entries]
  · split
    · simp
    · rename_i something
      have listed : r.examples.map Page.exampleText ≠ [] := by
        simpa using something
      have each : ∀ t ∈ r.examples.map Page.exampleText, Stops t := by
        intro t member
        obtain ⟨text, here, rfl⟩ := List.mem_map.1 member
        exact (stops_trimEnd (presentable.examples text here)).append_left _
      simp [Page.stops_listed listed each]

theorem block (presentable : r.Presentable) {locale : Locale}
    (something : Page.block locale r ≠ "") : Stops (Page.block locale r) := by
  refine Stops.intercalate ?_ (presentable.sections locale) _
  intro nothing
  rw [Page.block, nothing] at something
  exact something rfl

end Record.Presentable

theorem Text.Tidy.filled {text : String} (tidy : Tidy text) : isBlankLine text.toList = false := by
  obtain ⟨line, start, filled⟩ := tidy.first
  obtain ⟨c, inside, visible⟩ := List.all_eq_false.1 filled
  refine List.all_eq_false.2 ⟨c, ?_, visible⟩
  exact (mem_of_mem_cut (List.mem_of_head? start) c inside).1

theorem Text.Trimmed.not_feed {text : String} (trimmed : Trimmed text) :
    text.toList.getLast? ≠ some '\n' := by
  intro last
  rw [← trimmed.2] at last
  cases (last_rdropWhile last : isBlank '\n' = false)

theorem Doc.presentable_merge {doc : Doc} (formed : doc.WellFormed) {seed : Seed}
    (seeded : ∀ name, seed.name = some name → name.toList.getLast? ≠ some '\n') :
    (doc.merge seed).Presentable := by
  refine ⟨?_, fun label said => (formed.label label said).not_feed,
    fun text member => (formed.examples text member).filled⟩
  show (((doc.name.or seed.name).getD "").toList.getLast? ≠ some '\n')
  cases said : doc.name with
  | some name => exact (formed.name name said).not_feed
  | none =>
    cases known : seed.name with
    | some name => exact seeded name known
    | none => simp

theorem Record.presentable_ofComment {block : Bool} {text : String} {seed : Seed} {r : Record}
    (read : Record.ofComment block text seed = .ok (some r))
    (seeded : ∀ name, seed.name = some name → name.toList.getLast? ≠ some '\n') :
    r.Presentable := by
  unfold Record.ofComment at read
  split at read
  · match body : Doc.ofBody (String.ofList (text.toList.drop 1)), read with
    | .ok doc, read =>
      cases read
      exact Doc.presentable_merge (Doc.wellFormed_ofBody body) seeded
  · cases read

namespace Page

theorem title_ended {module : String} {items : List Record}
    (ended : module.toList.getLast? ≠ some '\n') (each : ∀ r ∈ items, r.Presentable) :
    (title module items).toList.getLast? ≠ some '\n' := by
  cases items with
  | nil => exact ended
  | cons first rest =>
    rw [title]
    split
    · cases label : first.label with
      | none => exact ended
      | some shown => exact (each first List.mem_cons_self).label shown label
    · exact ended

/-- A page ends in one line feed with a line before it that is not empty, whatever words, records
and parts of records it has, if no name ends in a line feed and no example is blank. Records that
are read from comments are such. -/
theorem page_ends_once :
    (∀ (locale : Locale) (module : String) (records : List Record),
      module.toList.getLast? ≠ some '\n' → (∀ r ∈ records, r.Presentable) →
        EndsOnce (render locale module records).content) ∧
    ∀ (block : Bool) (text : String) (seed : Seed) (r : Record),
      (∀ name, seed.name = some name → name.toList.getLast? ≠ some '\n') →
        Record.ofComment block text seed = .ok (some r) → r.Presentable := by
  refine ⟨?_, fun block text seed r seeded read => Record.presentable_ofComment read seeded⟩
  intro locale module records ended each
  have items : ∀ r ∈ sorted records, r.Presentable := fun r member =>
    each r ((List.mergeSort_perm records precedes).mem_iff.1 member)
  refine Stops.endsOnce (Stops.intercalate (List.cons_ne_nil _ _) ?_ _)
  have mark : Stops "# " := ⟨' ', by decide, by decide⟩
  refine List.forall_mem_cons.2 ⟨mark.append_right (title_ended ended items), ?_⟩
  intro text member
  obtain ⟨written, filled⟩ := List.mem_filter.1 member
  obtain ⟨r, here, rfl⟩ := List.mem_map.1 written
  exact (items r here).block (by simpa using filled)

/-- A comment that says nothing about its result leaves a line with nothing but a dash. -/
theorem empty_result_ends_once :
    let r : Record := { returns := some { } }
    Record.ofComment true "* @returns" { } = .ok (some r) ∧
      (render { } "m" [r]).content = "# m\n\n#### Returns\n\n- \n" ∧
      EndsOnce (render { } "m" [r]).content := by
  intro r
  have read : Record.ofComment true "* @returns" { } = .ok (some r) := by decide +kernel
  have content : (render { } "m" [r]).content = "# m\n\n#### Returns\n\n- \n" := by
    decide +kernel
  have presentable : r.Presentable := page_ends_once.2 true "* @returns" { } r (by simp) read
  exact ⟨read, content, page_ends_once.1 { } "m" [r] (by decide) (by simp [presentable])⟩

end Page

end Commentary
