import Commentary.Proofs.Brackets
import Commentary.Proofs.Merging
import Commentary.Proofs.Tidiness

/-! What can be relied on in any documentation that was read. Names, types and defaults are trimmed,
texts are tidy, a default makes a parameter optional, and a name is not used twice. Later blocks are
folded into earlier ones and seeds are merged in; both keep defaults and optional parameters
together, because they take the two fields from the same sides. -/
namespace Commentary

open Text (Trimmed Tidy Clean)

/-- What has a default can be left out. -/
def Param.DefaultOptional (p : Param) : Prop :=
  p.default.isSome = true → p.optional = true

structure Param.WellFormed (p : Param) : Prop where
  optional : p.DefaultOptional
  default : ∀ value, p.default = some value → Trimmed value
  types : ∀ type ∈ p.types, Trimmed type
  desc : ∀ text, p.desc = some text → Tidy text

def Param.IsResult (p : Param) : Prop :=
  p.name = "" ∧ p.optional = false ∧ p.default = none

structure Doc.WellFormed (doc : Doc) : Prop where
  distinct : Doc.DistinctNames doc.params
  params : ∀ p ∈ doc.params, p.WellFormed
  returns : ∀ p, doc.returns = some p → p.WellFormed ∧ p.IsResult
  name : ∀ name, doc.name = some name → Trimmed name
  label : ∀ label, doc.label = some label → Trimmed label
  desc : ∀ text, doc.desc = some text → Tidy text
  examples : ∀ text ∈ doc.examples, Tidy text

namespace Comment

theorem spanBalanced_suffix {opening closing : Char} (distinct : opening ≠ closing) {depth : Nat}
    {text inner rest : List Char}
    (found : spanBalanced opening closing depth text = some (inner, rest)) : rest <:+ text := by
  rw [(spanBalanced_eq_some distinct found).1]
  exact (List.suffix_cons _ _).trans (List.suffix_append _ _)

theorem trimmed_splitUnion (type : List Char) : ∀ t ∈ splitUnion type, Trimmed t := by
  intro t member
  obtain ⟨piece, _, kept⟩ := List.mem_filterMap.1 member
  exact Text.trimmed_of_nonBlank kept

theorem readTypes_eq_some {text rest : List Char} {types : List String}
    (read : readTypes text = some (types, rest)) :
    (∀ type ∈ types, Trimmed type) ∧ rest <:+ text := by
  unfold readTypes at read
  split at read
  · split at read
    · cases read
    · rename_i behind inner after found
      split at read
      · cases read
      · cases read
        refine ⟨trimmed_splitUnion _, (List.dropWhile_suffix _).trans ?_⟩
        exact (spanBalanced_suffix (by decide) found).trans (List.suffix_cons _ _)
  · cases read
    exact ⟨by simp, List.suffix_rfl⟩

theorem readName_eq_some {text rest : List Char} {p : Param}
    (read : readName text = some (p, rest)) : p.WellFormed ∧ rest <:+ text := by
  unfold readName at read
  split at read
  · split at read
    · cases read
    · rename_i behind inner after found
      obtain ⟨q, optional, same⟩ := Option.map_eq_some_iff.1 read
      cases same
      obtain ⟨name, _, rfl⟩ := Option.map_eq_some_iff.1 optional
      refine ⟨⟨fun _ => rfl, fun _ => Text.trimmed_of_nonBlank, by simp, by simp⟩,
        (List.dropWhile_suffix _).trans ?_⟩
      exact (spanBalanced_suffix (by decide) found).trans (List.suffix_cons _ _)
  · dsimp only at read
    have plain (name : String) : Param.WellFormed { name := name } :=
      ⟨by simp [Param.DefaultOptional], by simp, by simp, by simp⟩
    split at read
    · cases read
      exact ⟨plain _, (List.dropWhile_suffix _).trans (List.drop_suffix _ _)⟩
    · cases read
      exact ⟨plain _, List.suffix_rfl⟩

theorem clean_undash {text : List Char} (single : '\n' ∉ text) : Clean (undash text) := by
  unfold undash
  split
  · rename_i rest
    split
    · exact Text.clean_trim fun feed => single (List.mem_cons_of_mem _ feed)
    · exact Text.clean_trim single
  · exact Text.clean_trim single

theorem readHeader_eq_ok {tag : String} {payload first : List Char} {named : Bool} {item : Param}
    (read : readHeader tag payload named = .ok (item, first)) (single : '\n' ∉ payload) :
    item.WellFormed ∧ (named = false → item.IsResult) ∧ Clean first := by
  unfold readHeader at read
  split at read
  · rename_i header found
    cases read
    unfold readHeader? at found
    split at found
    · cases found
    · rename_i types rest before
      obtain ⟨trimmed, behind⟩ := readTypes_eq_some before
      have whole : rest <:+ payload := behind.trans (List.dropWhile_suffix _)
      cases named with
      | true =>
        obtain ⟨⟨p, after⟩, name, same⟩ := Option.map_eq_some_iff.1 found
        cases same
        obtain ⟨formed, later⟩ := readName_eq_some name
        refine ⟨⟨formed.optional, formed.default, trimmed, formed.desc⟩, by simp, ?_⟩
        exact clean_undash fun feed => single ((later.trans whole).subset feed)
      | false =>
        cases found
        refine ⟨⟨by simp [Param.DefaultOptional], by simp, trimmed, by simp⟩,
          fun _ => ⟨rfl, rfl, rfl⟩, ?_⟩
        exact clean_undash fun feed => single (whole.subset feed)
  · cases read

theorem splitTag_suffix {line payload : List Char} {word : String}
    (tagged : splitTag line = some (word, payload)) : payload <:+ line := by
  unfold splitTag at tagged
  split at tagged
  · rename_i rest shape
    dsimp only at tagged
    split at tagged
    · cases tagged
      have start : Text.trimStart line <:+ line := List.dropWhile_suffix _
      rw [shape] at start
      exact ((List.dropWhile_suffix _).trans (List.suffix_cons _ _)).trans start
    · cases tagged
  · cases tagged

/-- The lines of a section are single ones and end in no white space. -/
structure Section.Clean (s : Section) : Prop where
  payload : '\n' ∉ s.payload
  more : ∀ line ∈ s.more, Text.Clean line

theorem Outline.clean_ofLines {list : List (List Char)} (clean : ∀ line ∈ list, Text.Clean line) :
    (∀ line ∈ (ofLines list).lead, Text.Clean line) ∧ ∀ s ∈ (ofLines list).sections, s.Clean := by
  rw [← lines_ofLines list, lines] at clean
  refine ⟨fun line member => clean line (List.mem_append_left _ member), ?_⟩
  intro s member
  have own {line : List Char} (here : line ∈ s.line :: s.more) : Text.Clean line :=
    clean line (List.mem_append_right _ (List.mem_flatMap.2 ⟨s, member, here⟩))
  constructor
  · exact fun feed => (own List.mem_cons_self).single ((splitTag_suffix s.tagged).subset feed)
  · exact fun line here => own (List.mem_cons_of_mem _ here)

namespace Section.Clean

variable {s : Section}

theorem item (clean : s.Clean) {tag : Tag} {named : Bool} {p : Param}
    (said : s.item? tag named = some p) : p.WellFormed ∧ (named = false → p.IsResult) := by
  obtain ⟨header, asked, told⟩ := Option.bind_eq_some_iff.1 said
  match header, told with
  | .ok (item, first), told =>
    cases told
    have read : readHeader s.word s.payload named = .ok (item, first) := by
      unfold header? at asked
      split at asked
      · exact Option.some.inj asked
      · cases asked
    obtain ⟨formed, result, start⟩ := readHeader_eq_ok read clean.payload
    have lines : ∀ line ∈ first :: s.more, Text.Clean line :=
      List.forall_mem_cons.2 ⟨start, clean.more⟩
    exact ⟨⟨formed.optional, formed.default, formed.types, fun _ => tidy_content lines⟩, result⟩

theorem block (clean : s.Clean) :
    ∀ line ∈ Text.trim s.payload :: s.more, Text.Clean line :=
  List.forall_mem_cons.2 ⟨Text.clean_trim clean.payload, clean.more⟩

theorem text (clean : s.Clean) {t : String} (said : s.text? = some t) : Tidy t := by
  unfold text? at said
  split at said
  · exact tidy_content clean.block said
  · split at said
    · exact tidy_content clean.more said
    · cases said

theorem sample (clean : s.Clean) {t : String} (said : s.example? = some t) : Tidy t := by
  unfold example? at said
  split at said
  · exact tidy_renderExample clean.block said
  · cases said

end Section.Clean

end Comment

theorem Doc.tidy_stack {first again : Option String} (before : ∀ t, first = some t → Tidy t)
    (later : ∀ t, again = some t → Tidy t) : ∀ t, Doc.stack first again = some t → Tidy t := by
  intro t kept
  match first, again with
  | some a, some b =>
    cases kept
    exact (before a rfl).append (later b rfl)
  | some a, none => exact before t kept
  | none, _ => exact later t kept

namespace Param

/- The default and the mark that goes with it come from the same parameter. -/
theorem DefaultOptional.join {first second : Param} (here : first.DefaultOptional)
    (there : second.DefaultOptional) {joint : Param}
    (optional : joint.optional = (first.optional || second.optional))
    (default : joint.default = first.default.or second.default) : joint.DefaultOptional := by
  intro given
  rw [default, Option.isSome_or, Bool.or_eq_true] at given
  rw [optional, Bool.or_eq_true]
  exact given.imp here there

theorem DefaultOptional.merge {seed comment : Param} (source : seed.DefaultOptional)
    (said : comment.DefaultOptional) : (seed.merge comment).DefaultOptional :=
  source.join said rfl rfl

theorem WellFormed.fold {first again : Param} (before : first.WellFormed)
    (later : again.WellFormed) : (Doc.fold first again).WellFormed := by
  refine ⟨before.optional.join later.optional rfl rfl, ?_, ?_, ?_⟩
  · intro value given
    rcases Option.or_eq_some_iff.1 given with own | ⟨_, other⟩
    · exact before.default value own
    · exact later.default value other
  · intro type member
    simp only [Doc.fold] at member
    split at member
    · exact later.types type member
    · exact before.types type member
  · exact Doc.tidy_stack before.desc later.desc

theorem IsResult.fold {first again : Param} (before : first.IsResult) (later : again.IsResult) :
    (Doc.fold first again).IsResult := by
  obtain ⟨unnamed, required, without⟩ := before
  obtain ⟨_, required', without'⟩ := later
  exact ⟨unnamed, by simp [Doc.fold, required, required'], by simp [Doc.fold, without, without']⟩

end Param

namespace Comment

theorem wellFormed_insertParam {params : List Param} {item : Param}
    (before : ∀ p ∈ params, p.WellFormed) (new : item.WellFormed) :
    ∀ p ∈ insertParam params item, p.WellFormed := by
  unfold insertParam
  cases found : Param.updateNamed item.name (Doc.fold · item) params with
  | none =>
    intro p member
    rcases List.mem_append.1 member with old | last
    · exact before p old
    · exact List.mem_singleton.1 last ▸ new
  | some changed =>
    have folded := Param.forall_mem_updated item.name (fun p formed => formed.fold new) before
    rwa [Param.updated, found] at folded

theorem wellFormed_foldl_insertParam (items : List Param) (new : ∀ p ∈ items, p.WellFormed)
    {params : List Param} (before : ∀ p ∈ params, p.WellFormed) :
    ∀ p ∈ items.foldl insertParam params, p.WellFormed := by
  induction items generalizing params with
  | nil => exact before
  | cons item rest ih =>
    obtain ⟨here, later⟩ := List.forall_mem_cons.1 new
    exact ih later (wellFormed_insertParam before here)

theorem wellFormed_foldResults {items : List Param}
    (each : ∀ p ∈ items, p.WellFormed ∧ p.IsResult) {p : Param}
    (folded : foldResults items = some p) : p.WellFormed ∧ p.IsResult := by
  cases items with
  | nil => cases folded
  | cons first more =>
    cases folded
    obtain ⟨here, later⟩ := List.forall_mem_cons.1 each
    refine List.foldlRecOn more Doc.fold (motive := fun p => p.WellFormed ∧ p.IsResult) here ?_
    rintro p ⟨formed, result⟩ item member
    obtain ⟨formed', result'⟩ := later item member
    exact ⟨formed.fold formed', result.fold result'⟩

theorem Outline.trimmed_last {o : Outline} {tag : Tag} {t : String} (said : o.last? tag = some t) :
    Trimmed t := by
  obtain ⟨s, _, kept⟩ := Option.bind_eq_some_iff.1 said
  exact Text.trimmed_of_nonBlank kept

theorem tidy_paragraphs {texts : List String} (tidy : ∀ t ∈ texts, Tidy t) {t : String}
    (joined : paragraphs texts = some t) : Tidy t := by
  unfold paragraphs at joined
  split at joined
  · cases joined
  · rename_i something
    cases joined
    exact Tidy.intercalate (by simpa using something) tidy

end Comment

namespace Doc

open Comment

theorem wellFormed_ofBody {body : String} {doc : Doc} (read : ofBody body = .ok doc) :
    doc.WellFormed := by
  have distinct := distinctNames_ofBody read
  obtain ⟨lead, sections⟩ := Outline.clean_ofLines (clean_logicalLines body.toList)
  rw [ofBody_eq_read, Outline.read] at read
  generalize Outline.ofLines (logicalLines body.toList) = o at read lead sections
  -- Every field is collected from sections, and their lines are those of the comment.
  have from_sections {α : Type} {f : Section → Option α} {P : α → Prop}
      (each : ∀ s : Section, s.Clean → ∀ a, f s = some a → P a) :
      ∀ a ∈ o.sections.filterMap f, P a := by
    intro a member
    obtain ⟨s, here, said⟩ := List.mem_filterMap.1 member
    exact each s (sections s here) a said
  split at read
  · cases read
  · cases read
    refine ⟨distinct, ?_, ?_, ?_, ?_, ?_, ?_⟩
    · exact wellFormed_foldl_insertParam _
        (from_sections fun s clean _ said => (clean.item said).1) (by simp)
    · exact fun p => wellFormed_foldResults
        (from_sections fun s clean _ said => (clean.item said).imp_right fun result => result rfl)
    · exact fun _ => Outline.trimmed_last
    · exact fun _ => Outline.trimmed_last
    · refine fun t => tidy_paragraphs fun t member => ?_
      rcases List.mem_append.1 member with first | later
      · exact tidy_content lead (Option.mem_toList.1 first)
      · exact from_sections (fun s clean _ => clean.text) t later
    · exact from_sections fun s clean _ => clean.sample

theorem defaultOptional_mergeParams {seeded comment : List Param}
    (distinct : DistinctNames comment) (source : ∀ p ∈ seeded, p.DefaultOptional)
    (told : ∀ p ∈ comment, p.DefaultOptional) :
    ∀ p ∈ mergeParams seeded comment, p.DefaultOptional := by
  rw [mergeParams_eq seeded comment distinct]
  intro p member
  rcases List.mem_append.1 member with merged | kept
  · obtain ⟨i, inside, rfl⟩ := List.mem_mapIdx.1 merged
    have own := source _ (List.getElem_mem inside)
    cases spoken : said comment (seeded.map Param.name) i with
    | none => exact own
    | some item => exact own.merge (told item (mem_of_said spoken))
  · exact told p (List.mem_filter.1 kept).1

theorem defaultOptional_mergeResult {seed comment : Option Param}
    (source : ∀ p, seed = some p → p.DefaultOptional)
    (told : ∀ p, comment = some p → p.DefaultOptional) :
    ∀ p, mergeResult seed comment = some p → p.DefaultOptional := by
  intro p merged
  match seed, comment with
  | some first, some second =>
    cases merged
    exact (source first rfl).merge (told second rfl)
  | some first, none => exact source p merged
  | none, second => exact told p merged

/-- Whatever can be read is well-formed: names are distinct, names, types and defaults are trimmed,
a parameter with a default is optional, a result is neither named nor optional, and all texts are
tidy. Merged with a seed, parameters keep distinct names and stay optional where they have a
default, if those of the seed do. -/
theorem wellFormed_read_and_merged (body : String) (doc : Doc) (read : ofBody body = .ok doc) :
    doc.WellFormed ∧
    ∀ seed : Seed, DistinctNames seed.params → (∀ p ∈ seed.params, p.DefaultOptional) →
      DistinctNames (doc.merge seed).params ∧
      (∀ p ∈ (doc.merge seed).params, p.DefaultOptional) ∧
      ((∀ p, seed.returns = some p → p.DefaultOptional) →
        ∀ p, (doc.merge seed).returns = some p → p.DefaultOptional) := by
  have formed := wellFormed_ofBody read
  refine ⟨formed, fun seed distinct source => ⟨?_, ?_, ?_⟩⟩
  · exact distinctNames_mergeParams distinct formed.distinct
  · exact defaultOptional_mergeParams formed.distinct source fun p member =>
      (formed.params p member).optional
  · exact fun result => defaultOptional_mergeResult result fun p told =>
      (formed.returns p told).1.optional

/-- The default of a parameter comes with its second block, and the seed has another default. -/
theorem folded_default_wellFormed :
    let body := " Adds.\n * @param a first\n * @param \x7bnumber\x7d [a=1] - again\n" ++
      " * @returns \x7bnumber\x7d sum\n * @example\n * add(2)\n "
    let doc : Doc := {
      desc := some "Adds."
      params := [{
        name := "a"
        types := ["number"]
        optional := true
        default := some "1"
        desc := some "first\nagain" }]
      returns := some { types := ["number"], desc := some "sum" }
      examples := ["```js\nadd(2)\n```"] }
    let seed : Seed := {
      params := [{ name := "b", optional := true, default := some "2" }, { name := "a" }] }
    ofBody body = .ok doc ∧ doc.WellFormed ∧
      DistinctNames seed.params ∧ (∀ p ∈ seed.params, p.DefaultOptional) ∧
      DistinctNames (doc.merge seed).params ∧
      ∀ p ∈ (doc.merge seed).params, p.DefaultOptional := by
  intro body doc seed
  have read : ofBody body = .ok doc := by decide +kernel
  have distinct : DistinctNames seed.params := by simp [seed, DistinctNames]
  have source : ∀ p ∈ seed.params, p.DefaultOptional := by simp [seed, Param.DefaultOptional]
  obtain ⟨formed, merged⟩ := wellFormed_read_and_merged body doc read
  obtain ⟨names, defaults, _⟩ := merged seed distinct source
  exact ⟨read, formed, distinct, source, names, defaults⟩

end Doc

end Commentary
