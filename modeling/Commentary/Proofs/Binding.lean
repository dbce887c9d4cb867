import Commentary.Extraction
import Mathlib.Data.List.Nodup
import Mathlib.Data.List.Perm.Basic

/-! Comments and the statements they lead to. Statements that do not overlap share no anchors, so
a comment leads to one statement at most; every comment is visited once, unless it is nested in a
statement, and says at most one thing then. Nothing is assumed about the order of statements or
comments. -/
namespace Commentary

namespace Script

-- Where the declaration starts that a statement exports.
def Statement.inner? (st : Statement) : Option Nat :=
  match st.form with
  | .exporting inner => inner.map Prod.fst
  | _ => none

namespace Comment

def LeadsTo (c : Comment) (st : Statement) : Prop :=
  c.anchor.isSome ∧ (c.anchor = some st.span.start ∨ c.anchor = st.inner?)

instance (c : Comment) (st : Statement) : Decidable (c.LeadsTo st) :=
  inferInstanceAs (Decidable (_ ∧ _))

def LiesIn (c : Comment) (st : Statement) : Prop :=
  st.span.start ≤ c.start ∧ c.stop ≤ st.span.stop

instance (c : Comment) (st : Statement) : Decidable (c.LiesIn st) :=
  inferInstanceAs (Decidable (_ ∧ _))

end Comment

/-- A comment on its way to a record: with the statement it leads to, or outside all of them. -/
structure Visit where
  statement : Option Statement
  comment : Comment

/-- The comments at the start of a statement, and then the others that lead to it. -/
def Statement.visits (comments : List Comment) (st : Statement) : List Visit :=
  ((comments.filter fun c => c.anchor = some st.span.start) ++
    comments.filter fun c => c.LeadsTo st ∧ c.anchor ≠ some st.span.start).map (.mk (some st))

namespace Program

def Anchored (p : Program) (c : Comment) : Prop :=
  ∃ st ∈ p.statements, c.LeadsTo st

instance (p : Program) (c : Comment) : Decidable (p.Anchored c) :=
  inferInstanceAs (Decidable (∃ st ∈ p.statements, c.LeadsTo st))

def Free (p : Program) (c : Comment) : Prop :=
  ¬ p.Anchored c ∧ ∀ st ∈ p.statements, ¬ c.LiesIn st

instance (p : Program) (c : Comment) : Decidable (p.Free c) :=
  inferInstanceAs (Decidable (_ ∧ _))

def Nested (p : Program) (c : Comment) : Prop :=
  ¬ p.Anchored c ∧ ¬ p.Free c

instance (p : Program) (c : Comment) : Decidable (p.Nested c) :=
  inferInstanceAs (Decidable (_ ∧ _))

def visits (p : Program) : List Visit :=
  p.statements.flatMap (Statement.visits p.comments) ++
    (p.comments.filter fun c => p.Free c).map (.mk none)

/-- What grammars provide: a statement has room for itself, apart from the others, and for the
declaration it exports. -/
structure WellSpanned (p : Program) : Prop where
  filled : ∀ st ∈ p.statements, st.span.start < st.span.stop
  apart : p.statements.Pairwise fun a b =>
    a.span.stop ≤ b.span.start ∨ b.span.stop ≤ a.span.start
  holds : ∀ st ∈ p.statements, ∀ inner, st.inner? = some inner →
    st.span.start ≤ inner ∧ inner < st.span.stop

end Program

theorem Statement.anchors_eq (st : Statement) :
    st.anchors = st.span.start :: (st.inner?.filter (· ≠ st.span.start)).toList := by
  unfold anchors inner?
  cases st.form with
  | exporting inner =>
    cases inner with
    | none => rfl
    | some it => by_cases same : it.1 = st.span.start <;> simp [same, Option.filter]
  | _ => rfl

theorem Statement.mem_anchors {st : Statement} {a : Nat} :
    a ∈ st.anchors ↔ a = st.span.start ∨ st.inner? = some a := by
  by_cases same : a = st.span.start <;> simp [anchors_eq, same]

theorem Statement.anchors_nodup (st : Statement) : st.anchors.Nodup := by
  rw [anchors_eq]
  cases other : st.inner?.filter (· ≠ st.span.start) with
  | none => simp
  | some a =>
    have different : a ≠ st.span.start := by simpa using (Option.filter_eq_some_iff.1 other).2
    simpa using different.symm

theorem Comment.leadsTo_iff {c : Comment} {st : Statement} :
    c.LeadsTo st ↔ ∃ a ∈ st.anchors, c.anchor = some a := by
  simp only [LeadsTo, Statement.mem_anchors]
  cases c.anchor with
  | none => simp
  | some a => simp [eq_comm]

namespace Program.WellSpanned

variable {p : Program}

theorem anchor_in_span (spans : p.WellSpanned) {st : Statement} (member : st ∈ p.statements)
    {a : Nat} (anchor : a ∈ st.anchors) : st.span.start ≤ a ∧ a < st.span.stop := by
  rcases Statement.mem_anchors.1 anchor with rfl | inner
  · exact ⟨Nat.le_refl _, spans.filled st member⟩
  · exact spans.holds st member a inner

theorem anchors_nodup (spans : p.WellSpanned) :
    (p.statements.flatMap Statement.anchors).Nodup := by
  refine List.nodup_flatMap.2 ⟨fun st _ => st.anchors_nodup, ?_⟩
  refine spans.apart.imp_of_mem ?_
  -- A shared anchor would lie in both spans.
  intro st other here there apart a anchor shared
  have first := spans.anchor_in_span here anchor
  have second := spans.anchor_in_span there shared
  omega

end Program.WellSpanned

theorem filter_append_perm_or {α : Type} (list : List α) {p q : α → Bool}
    (exclusive : ∀ x ∈ list, p x = true → q x = false) :
    (list.filter p ++ list.filter q).Perm (list.filter fun x => p x || q x) := by
  have parts := List.filter_append_perm p (list.filter fun x => p x || q x)
  have first : (list.filter fun x => p x || q x).filter p = list.filter p := by
    rw [List.filter_filter]
    exact List.filter_congr fun x _ => by cases p x <;> simp
  have second : ((list.filter fun x => p x || q x).filter fun x => !p x) = list.filter q := by
    rw [List.filter_filter]
    refine List.filter_congr fun x member => ?_
    cases here : p x with
    | false => simp
    | true => simp [exclusive x member here]
  rwa [first, second] at parts

theorem filter_anchors_perm (comments : List Comment) {anchors : List Nat}
    (distinct : anchors.Nodup) :
    (anchors.flatMap fun a => comments.filter fun c => c.anchor = some a).Perm
      (comments.filter fun c => ∃ a ∈ anchors, c.anchor = some a) := by
  induction anchors with
  | nil => simp
  | cons a rest ih =>
    obtain ⟨new, distinct⟩ := List.nodup_cons.1 distinct
    have exclusive : ∀ c ∈ comments, decide (c.anchor = some a) = true →
        decide (∃ b ∈ rest, c.anchor = some b) = false := by
      intro c _ here
      rw [of_decide_eq_true here, decide_eq_false_iff_not]
      rintro ⟨b, later, same⟩
      exact new (Option.some.inj same ▸ later)
    have both := ((ih distinct).append_left _).trans (filter_append_perm_or comments exclusive)
    simpa using both

theorem Statement.visits_eq (comments : List Comment) (st : Statement) :
    (st.visits comments).map Visit.comment =
      st.anchors.flatMap fun a => comments.filter fun c => c.anchor = some a := by
  rw [visits, List.map_map, anchors_eq, List.flatMap_cons]
  show List.map id _ = _
  rw [List.map_id]
  congr 1
  cases other : st.inner?.filter (· ≠ st.span.start) with
  | none =>
    have none_else (c : Comment) : ¬ (c.LeadsTo st ∧ c.anchor ≠ some st.span.start) := by
      rw [Comment.leadsTo_iff, anchors_eq, other]
      simp
    simp [none_else]
  | some a =>
    have different : a ≠ st.span.start := by simpa using (Option.filter_eq_some_iff.1 other).2
    simp only [Option.toList_some, List.flatMap_cons, List.flatMap_nil, List.append_nil]
    apply List.filter_congr
    intro c _
    rw [decide_eq_decide, Comment.leadsTo_iff, anchors_eq, other]
    grind

theorem Program.visits_perm {p : Program} (spans : p.WellSpanned) :
    (p.visits.map Visit.comment).Perm (p.comments.filter fun c => ¬ p.Nested c) := by
  have anchored : ((p.statements.flatMap (Statement.visits p.comments)).map Visit.comment).Perm
      (p.comments.filter fun c => p.Anchored c) := by
    simp only [List.map_flatMap, Statement.visits_eq]
    rw [← List.flatMap_assoc]
    refine (filter_anchors_perm p.comments spans.anchors_nodup).trans (.of_eq ?_)
    apply List.filter_congr
    intro c _
    simp only [Anchored, Comment.leadsTo_iff, List.mem_flatMap]
    grind
  have exclusive : ∀ c ∈ p.comments, decide (p.Anchored c) = true → decide (p.Free c) = false := by
    intro c _ here
    exact decide_eq_false fun apart => apart.1 (of_decide_eq_true here)
  have free : ((p.comments.filter fun c => p.Free c).map (Visit.mk none)).map Visit.comment =
      p.comments.filter fun c => p.Free c := by
    simp [Function.comp_def]
  rw [visits, List.map_append, free]
  refine ((anchored.append_right _).trans (filter_append_perm_or p.comments exclusive)).trans
    (.of_eq ?_)
  apply List.filter_congr
  intro c _
  by_cases here : p.Anchored c <;> by_cases apart : p.Free c <;> simp [Nested, here, apart]

end Script

def Script.Comment.doc? (c : Script.Comment) : Option (Except Comment.Malformed Doc) :=
  if isDocStyle c.block c.text then some (Doc.ofBody (String.ofList (c.text.toList.drop 1)))
  else none

namespace Extraction.Source

open Script

/-- What is known about a statement when its comments are read. Nothing is known about one that
is left out. -/
def seed? (s : Source) (documentUnsupported : Bool) (st : Statement) : Option Seed :=
  match s.declared st.declaration with
  | .ok seed => some seed
  | .error (name, _) => if documentUnsupported then some (.named name) else none

/-- The record of a visit. A comment about the file keeps to the file wherever it stands, others
need a statement. -/
def recordOf (s : Source) (documentUnsupported : Bool) (v : Visit) : Option Record :=
  match v.comment.doc? with
  | some (.ok doc) =>
    if doc.kind = .file then some (doc.merge s.seed)
    else (v.statement.bind (s.seed? documentUnsupported)).map doc.merge
  | _ => none

def malformed? (s : Source) (c : Script.Comment) : Option Diagnostic :=
  match c.doc? with
  | some (.error cause) => some (.ofError s.path (.malformed cause))
  | _ => none

def unsupported? (s : Source) (st : Statement) : Option Diagnostic :=
  match s.declared st.declaration with
  | .ok _ => none
  | .error (name, reason) => some (.ofError s.path (.unsupported s.path name reason))

def finding? (s : Source) (seed : Option Seed) (c : Script.Comment) : Option Finding :=
  match c.doc? with
  | some (.ok doc) =>
    if doc.kind = .file then some (.record (doc.merge s.seed))
    else seed.map fun seed => .record (doc.merge seed)
  | some (.error cause) => some (s.report (.malformed cause))
  | none => none

theorem ofComment_eq (c : Script.Comment) (seed : Seed) :
    Record.ofComment c.block c.text seed =
      match c.doc? with
      | some said => said.map fun doc => some (doc.merge seed)
      | none => .ok none := by
  unfold Record.ofComment Script.Comment.doc?
  split <;> rfl

theorem aboutDeclaration_eq (s : Source) (seed : Seed) (c : Script.Comment) :
    s.aboutDeclaration seed c = (s.finding? (some seed) c).toList := by
  unfold aboutDeclaration told finding?
  simp only [ofComment_eq]
  match c.doc? with
  | none => rfl
  | some (.error cause) => rfl
  | some (.ok doc) =>
    by_cases file : doc.kind = .file <;> simp [Except.map, Record.isFile, Doc.merge, file]

theorem aboutFile_eq (s : Source) (c : Script.Comment) :
    s.aboutFile c = (s.finding? none c).toList := by
  unfold aboutFile told finding?
  rw [ofComment_eq]
  match c.doc? with
  | none => rfl
  | some (.error cause) => rfl
  | some (.ok doc) =>
    by_cases file : doc.kind = .file <;>
      simp [Except.map, Finding.concernsFile, Record.isFile, Doc.merge, file]

theorem aboutStatement_eq (s : Source) (documentUnsupported : Bool)
    (comments : List Script.Comment) (st : Statement) :
    s.aboutStatement documentUnsupported comments st =
      ((s.unsupported? st).map .problem).toList ++
        (leading comments st).filterMap (s.finding? (s.seed? documentUnsupported st)) := by
  have declaration (seed : Seed) : s.aboutDeclaration seed = fun c =>
      (s.finding? (some seed) c).toList := funext (s.aboutDeclaration_eq seed)
  have file : s.aboutFile = fun c => (s.finding? none c).toList := funext s.aboutFile_eq
  rw [List.filterMap_eq_flatMap_toList]
  unfold aboutStatement unsupported? seed?
  match s.declared st.declaration with
  | .ok seed => simp [declaration]
  | .error (name, reason) =>
    cases documentUnsupported <;> simp [declaration, file, report]

theorem isFree_eq (p : Program) (c : Script.Comment) :
    isFree p.statements c = decide (p.Free c) := by
  rw [Bool.eq_iff_iff, decide_eq_true_iff]
  simp only [isFree, Program.Free, Program.Anchored, Script.Comment.leadsTo_iff,
    Script.Comment.LiesIn]
  grind

theorem leading_eq_visits (comments : List Script.Comment) (st : Statement) :
    leading comments st = (st.visits comments).map Visit.comment := by
  rw [Statement.visits_eq, leading]
  simp only [beq_eq_decide]

def findingOf (s : Source) (documentUnsupported : Bool) (v : Visit) : Option Finding :=
  s.finding? (v.statement.bind (s.seed? documentUnsupported)) v.comment

theorem findingOf_record (s : Source) (documentUnsupported : Bool) (v : Visit) :
    (s.findingOf documentUnsupported v).bind Finding.record? =
      s.recordOf documentUnsupported v := by
  unfold findingOf finding? recordOf
  match v.comment.doc? with
  | none => rfl
  | some (.error cause) => rfl
  | some (.ok doc) =>
    by_cases file : doc.kind = .file
    · simp [file, Finding.record?]
    · cases v.statement.bind (s.seed? documentUnsupported) <;> simp [file, Finding.record?]

theorem finding_problem (s : Source) (seed : Option Seed) (c : Script.Comment) :
    (s.finding? seed c).bind Finding.problem? = s.malformed? c := by
  unfold finding? malformed?
  match c.doc? with
  | none => rfl
  | some (.error cause) => rfl
  | some (.ok doc) =>
    by_cases file : doc.kind = .file
    · simp [file, Finding.problem?]
    · cases seed <;> simp [file, Finding.problem?]

theorem findingOf_problem (s : Source) (documentUnsupported : Bool) (v : Visit) :
    (s.findingOf documentUnsupported v).bind Finding.problem? = s.malformed? v.comment :=
  s.finding_problem _ v.comment

/- The visits of a statement all carry the statement, the others carry none. -/
theorem findings_eq (s : Source) (documentUnsupported : Bool) {p : Program}
    (nonempty : p.statements ≠ []) :
    s.findings documentUnsupported p =
      (p.statements.flatMap fun st => ((s.unsupported? st).map .problem).toList ++
        (st.visits p.comments).filterMap (s.findingOf documentUnsupported)) ++
      ((p.comments.filter fun c => p.Free c).map (.mk none)).filterMap
        (s.findingOf documentUnsupported) := by
  have statement : s.aboutStatement documentUnsupported p.comments = fun st =>
      ((s.unsupported? st).map .problem).toList ++
        (st.visits p.comments).filterMap (s.findingOf documentUnsupported) := by
    funext st
    rw [aboutStatement_eq, leading_eq_visits, List.filterMap_map, Statement.visits,
      List.filterMap_map, List.filterMap_map]
    rfl
  have free : p.comments.filter (isFree p.statements) = p.comments.filter fun c => p.Free c :=
    List.filter_congr fun c _ => isFree_eq p c
  have outside : s.aboutFile = fun c => (s.findingOf documentUnsupported (.mk none c)).toList :=
    funext s.aboutFile_eq
  rw [findings, if_neg (by simpa using nonempty), statement, free, outside,
    ← List.filterMap_eq_flatMap_toList, List.filterMap_map]
  rfl

theorem records_eq (s : Source) (documentUnsupported : Bool) {p : Program}
    (nonempty : p.statements ≠ []) :
    (ofFindings (s.findings documentUnsupported p)).records =
      p.visits.filterMap (s.recordOf documentUnsupported) := by
  have none_of_problem (d : Option Diagnostic) :
      (d.map Finding.problem).toList.filterMap Finding.record? = [] := by
    cases d <;> rfl
  simp only [ofFindings, s.findings_eq documentUnsupported nonempty, Program.visits,
    List.filterMap_append, List.filterMap_flatMap, List.filterMap_filterMap, findingOf_record,
    none_of_problem, List.nil_append]

/- Reports about statements stand among those about their comments, so only the order differs. -/
theorem diagnostics_perm (s : Source) (documentUnsupported : Bool) {p : Program}
    (nonempty : p.statements ≠ []) :
    (ofFindings (s.findings documentUnsupported p)).diagnostics.Perm
      (p.statements.filterMap s.unsupported? ++
        p.visits.filterMap fun v => s.malformed? v.comment) := by
  have problem_of (d : Option Diagnostic) :
      (d.map Finding.problem).toList.filterMap Finding.problem? = d.toList := by
    cases d <;> rfl
  simp only [ofFindings, s.findings_eq documentUnsupported nonempty, Program.visits,
    List.filterMap_append, List.filterMap_flatMap, List.filterMap_filterMap, findingOf_problem,
    problem_of]
  rw [List.filterMap_eq_flatMap_toList s.unsupported?, ← List.append_assoc]
  exact (List.flatMap_append_perm ..).symm.append_right _

/-- In a program with statements every comment goes one way. Comments that lead to a statement are
taken with it, those at its start first; comments outside all statements come last; nested ones
are not taken at all, and none is taken twice. A comment that is taken makes one record at most.
Each one that cannot be read is reported once, and so is each statement that is left out. -/
theorem comments_bound_once (s : Source) (documentUnsupported : Bool) (p : Program)
    (nonempty : p.statements ≠ []) (spans : p.WellSpanned) :
    let found := ofFindings (s.findings documentUnsupported p)
    found.records = p.visits.filterMap (s.recordOf documentUnsupported) ∧
    (p.visits.map Visit.comment).Perm (p.comments.filter fun c => ¬ p.Nested c) ∧
    found.diagnostics.Perm (p.statements.filterMap s.unsupported? ++
      (p.comments.filter fun c => ¬ p.Nested c).filterMap s.malformed?) := by
  have once := Program.visits_perm spans
  refine ⟨s.records_eq documentUnsupported nonempty, once, ?_⟩
  have reported := once.filterMap s.malformed?
  rw [List.filterMap_map] at reported
  exact (s.diagnostics_perm documentUnsupported nonempty).trans (reported.append_left _)

/-- One comment leads to an export and one, which cannot be read, to the function in it; one is
nested there, and the last one is about the file. -/
theorem exported_function_bound_once :
    let s : Source := ⟨"a.js",
      "/** A. */ export /** @param \x7bx */ function f(\x7ba\x7d) \x7b /** C. */ \x7d " ++
      "/** @file D. */ g();"⟩
    let p : Program := {
      directives := 0
      statements := [
        ⟨⟨10, 63⟩, .exporting (some (34, .routine (some "f") ⟨[⟨none, ⟨45, 48⟩, false, none, none⟩],
          none, none⟩)), ["f"]⟩,
        ⟨⟨80, 84⟩, .other, []⟩]
      comments := [⟨true, "* A. ", 0, 9, some 10⟩, ⟨true, "* @param \x7bx ", 17, 33, some 34⟩,
        ⟨true, "* C. ", 52, 61, some 62⟩, ⟨true, "* @file D. ", 64, 79, some 80⟩]
      faulty := false }
    let found := ofFindings (s.findings true p)
    p.statements ≠ [] ∧ p.WellSpanned ∧
      found.records = [{ name := "f", desc := some "A." },
        { kind := .file, name := "a", desc := some "D." }] ∧
      found.diagnostics.length = 2 := by
  intro s p found
  have nonempty : p.statements ≠ [] := by decide
  have spans : p.WellSpanned := ⟨by decide, by decide, by decide⟩
  obtain ⟨records, -, reports⟩ := comments_bound_once s true p nonempty spans
  exact ⟨nonempty, spans, records.trans (by decide +kernel),
    reports.length_eq.trans (by decide +kernel)⟩

end Extraction.Source

end Commentary
