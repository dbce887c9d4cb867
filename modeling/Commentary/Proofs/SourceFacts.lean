import Commentary.Proofs.Binding
import Commentary.Proofs.Merging

/-! Documented functions. What the source says about a function stands, whatever a comment says;
the comment fills in what the source leaves open. Names of parameters are assumed to be there and
not empty, as identifiers are. Two parameters may share one. -/
namespace Commentary.Extraction.Source

open Script

def parameters (sig : Signature) : List Parameter :=
  sig.params ++ sig.rest.toList

def IsIdentifier (q : Parameter) : Prop :=
  ∃ name, q.name = some name ∧ name ≠ ""

/-- A parameter with what a comment says about it, if it says anything. -/
def documented (s : Source) (q : Parameter) (said : Option Param) : Param where
  name := q.name.getD ""
  types :=
    match q.type with
    | some type => [s.slice type]
    | none => (said.map Param.types).getD []
  optional := q.optional || q.default.isSome || said.any Param.optional
  default :=
    match q.default with
    | some value => some (s.slice value)
    | none => said.bind Param.default
  desc := said.bind Param.desc

/-- The record of a function. A parameter of the comment belongs to the first parameter of its
name. -/
def documentation (s : Source) (name : Option String) (sig : Signature) (doc : Doc) : Record :=
  let names := (parameters sig).map fun q => q.name.getD ""
  { kind := .block
    name := doc.name.getD (name.getD "")
    label := doc.label
    desc := doc.desc
    params := (parameters sig).mapIdx (fun i q => s.documented q (Doc.said doc.params names i)) ++
      doc.params.filter fun item => item.name ∉ names
    returns :=
      match sig.returns with
      | some type => some { doc.returns.getD {} with types := [s.slice type] }
      | none => doc.returns
    examples := doc.examples }

theorem mapM_param (s : Source) {list : List Parameter}
    (identifiers : ∀ q ∈ list, IsIdentifier q) :
    list.mapM s.param = .ok (list.map (s.documented · none)) := by
  induction list with
  | nil => rfl
  | cons q rest ih =>
    obtain ⟨⟨name, named, -⟩, others⟩ := List.forall_mem_cons.1 identifiers
    have first : s.param q = .ok (s.documented q none) := by
      cases annotated : q.type <;> cases defaulted : q.default <;>
        simp [param, documented, named, annotated, defaulted]
    rw [List.mapM_cons, first, ih others]
    rfl

theorem merge_documented (s : Source) {q : Parameter} (identifier : IsIdentifier q)
    (said : Option Param) :
    said.elim (s.documented q none) (s.documented q none).merge = s.documented q said := by
  obtain ⟨name, named, nonempty⟩ := identifier
  cases said with
  | none => rfl
  | some item =>
    cases annotated : q.type <;> cases defaulted : q.default <;>
      simp [Param.merge, documented, named, nonempty, annotated, defaulted]

theorem declared_routine (s : Source) (name : Option String) {sig : Signature}
    (identifiers : ∀ q ∈ parameters sig, IsIdentifier q) :
    s.declared (.routine name sig) = .ok {
      name := some (name.getD "")
      params := (parameters sig).map (s.documented · none)
      returns := sig.returns.map s.result } := by
  have params := s.mapM_param identifiers
  rw [parameters] at params
  simp only [declared, params]
  rfl

theorem mapIdx_documented (s : Source) {list : List Parameter}
    (identifiers : ∀ q ∈ list, IsIdentifier q) (said : Nat → Option Param) :
    (list.map (s.documented · none)).mapIdx (fun i seed => (said i).elim seed seed.merge) =
      list.mapIdx fun i q => s.documented q (said i) := by
  apply List.ext_getElem?
  intro i
  rw [List.getElem?_mapIdx, List.getElem?_map, List.getElem?_mapIdx, Option.map_map]
  cases here : list[i]? with
  | none => rfl
  | some q =>
    exact congrArg some (s.merge_documented (identifiers q (List.mem_of_getElem? here)) (said i))

theorem namesNone_iff {list : List Parameter} (identifiers : ∀ q ∈ list, IsIdentifier q)
    (item : Param) :
    Doc.NamesNone (list.map fun q => q.name.getD "") item ↔
      item.name ∉ list.map fun q => q.name.getD "" := by
  -- Without a name a parameter of the comment cannot name an identifier.
  have unnamed : "" ∉ list.map fun q => q.name.getD "" := by
    intro member
    obtain ⟨q, here, blank⟩ := List.mem_map.1 member
    obtain ⟨name, named, nonempty⟩ := identifiers q here
    exact nonempty (by simpa [named] using blank)
  exact or_iff_right_of_imp fun blank => blank ▸ unnamed

theorem mergeResult_result (s : Source) (type : Option Span) (told : Option Param) :
    Doc.mergeResult (type.map s.result) told =
      match type with
      | some type => some { told.getD {} with types := [s.slice type] }
      | none => told := by
  cases type <;> cases told <;> simp [Doc.mergeResult, Param.merge, result, Param.withType]

theorem merge_routine (s : Source) (name : Option String) {sig : Signature}
    (identifiers : ∀ q ∈ parameters sig, IsIdentifier q) {doc : Doc} (block : doc.kind ≠ .file)
    (distinct : Doc.DistinctNames doc.params) :
    doc.merge {
      name := some (name.getD "")
      params := (parameters sig).map (s.documented · none)
      returns := sig.returns.map s.result } = s.documentation name sig doc := by
  have names : ((parameters sig).map (s.documented · none)).map Param.name =
      (parameters sig).map fun q => q.name.getD "" := by
    rw [List.map_map]
    rfl
  have kind : doc.kind = .block := by
    cases here : doc.kind with
    | file => exact absurd here block
    | block => rfl
  unfold Doc.merge documentation
  rw [Doc.mergeParams_eq _ _ distinct, names, s.mapIdx_documented identifiers, mergeResult_result,
    kind]
  simp only [namesNone_iff identifiers]
  cases doc.name <;> rfl

theorem leading_singleton {c : Script.Comment} {st : Statement} (leads : c.LeadsTo st) :
    leading [c] st = [c] := by
  rw [leading_eq_visits, Statement.visits]
  by_cases first : c.anchor = some st.span.start <;> simp [first, leads]

theorem mem_visits {p : Program} {st : Statement} {c : Script.Comment}
    (member : st ∈ p.statements) (here : c ∈ p.comments) (leads : c.LeadsTo st) :
    ⟨some st, c⟩ ∈ p.visits := by
  refine List.mem_append_left _ (List.mem_flatMap.2 ⟨st, member, ?_⟩)
  refine List.mem_map_of_mem (List.mem_append.2 ?_)
  by_cases first : c.anchor = some st.span.start
  · exact .inl (by simp [here, first])
  · exact .inr (by simp [here, leads, first])

/-- Every comment that leads to a function, and does not speak of the file, makes one record: the
parameters of the source come first, each with its name, its type and its default as the source
has them, and the type of the result is that of the source. -/
theorem function_facts_stand (s : Source) (documentUnsupported : Bool) (p : Program)
    (st : Statement) (c : Script.Comment) (name : Option String) (sig : Signature) (doc : Doc)
    (member : st ∈ p.statements) (here : c ∈ p.comments) (leads : c.LeadsTo st)
    (routine : st.declaration = .routine name sig)
    (identifiers : ∀ q ∈ parameters sig, IsIdentifier q)
    (read : c.doc? = some (.ok doc)) (block : doc.kind ≠ .file) :
    s.aboutStatement documentUnsupported [c] st = [.record (s.documentation name sig doc)] ∧
      s.documentation name sig doc ∈
        (ofFindings (s.findings documentUnsupported p)).records := by
  have distinct : Doc.DistinctNames doc.params := by
    unfold Script.Comment.doc? at read
    split at read
    · exact Doc.distinctNames_ofBody (Option.some.inj read)
    · cases read
  have declared := s.declared_routine name identifiers
  have merged := s.merge_routine name identifiers block distinct
  constructor
  · simp [aboutStatement_eq, leading_singleton leads, unsupported?, seed?, routine, declared,
      finding?, read, block, merged]
  · rw [s.records_eq documentUnsupported (List.ne_nil_of_mem member), List.mem_filterMap]
    refine ⟨⟨some st, c⟩, mem_visits member here leads, ?_⟩
    simp [recordOf, read, block, seed?, routine, declared, merged]

/-- A comment with a stale type, an optional parameter and one that does not exist; the source has
one parameter name twice. -/
theorem stale_types_give_way :
    let s : Source := ⟨"a.ts", "/** @param \x7bstring\x7d a first\n * @param [b] second\n" ++
      " * @param d other\n * @returns \x7bvoid\x7d sum */\n" ++
      "export function f(a: number, b = 1, a?: T, ...c): number \x7b\x7d"⟩
    let sig : Signature := {
      params := [⟨some "a", ⟨111, 120⟩, false, some ⟨114, 120⟩, none⟩,
        ⟨some "b", ⟨122, 123⟩, false, none, some ⟨126, 127⟩⟩,
        ⟨some "a", ⟨129, 134⟩, true, some ⟨133, 134⟩, none⟩]
      rest := some ⟨some "c", ⟨139, 140⟩, false, none, none⟩
      returns := some ⟨143, 149⟩ }
    let st : Statement := ⟨⟨93, 152⟩, .exporting (some (100, .routine (some "f") sig)), ["f"]⟩
    let c : Script.Comment := ⟨true, "* @param \x7bstring\x7d a first\n * @param [b] second\n" ++
      " * @param d other\n * @returns \x7bvoid\x7d sum ", 0, 92, some 93⟩
    let doc : Doc := {
      params := [{ name := "a", types := ["string"], desc := some "first" },
        { name := "b", optional := true, desc := some "second" },
        { name := "d", desc := some "other" }]
      returns := some { types := ["void"], desc := some "sum" } }
    c.LeadsTo st ∧ (∀ q ∈ parameters sig, IsIdentifier q) ∧ c.doc? = some (.ok doc) ∧
      s.aboutStatement false [c] st = [.record {
        name := "f"
        params := [{ name := "a", types := ["number"], desc := some "first" },
          { name := "b", optional := true, default := some "1", desc := some "second" },
          { name := "a", types := ["T"], optional := true },
          { name := "c" },
          { name := "d", desc := some "other" }]
        returns := some { types := ["number"], desc := some "sum" } }] := by
  intro s sig st c doc
  have leads : c.LeadsTo st := by decide
  have identifiers : ∀ q ∈ parameters sig, IsIdentifier q := by
    simp [parameters, sig, IsIdentifier]
  have read : c.doc? = some (.ok doc) := by decide +kernel
  obtain ⟨told, -⟩ := function_facts_stand s false ⟨0, [st], [c], false⟩ st c (some "f") sig doc
    (List.mem_singleton_self st) (List.mem_singleton_self c) leads rfl identifiers read (by decide)
  exact ⟨leads, identifiers, read, told.trans (by decide +kernel)⟩

end Commentary.Extraction.Source
