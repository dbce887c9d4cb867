import Commentary.Proofs.Binding

/-! Records about files. A comment that speaks of the file is read with the name of the file and
nothing else, wherever it stands and whatever the statement behind it declares. A seed has no say in
whether a comment can be read, in whether it speaks of the file, or in its texts, so reading such a
comment a second time brings no surprise. Nothing is assumed about spans. -/
namespace Commentary

/-- Readings of one comment under two seeds. Only names, parameters and results may differ. -/
inductive Record.Alike : (_ _ : Except Comment.Malformed (Option Record)) → Prop where
  | malformed (cause : Comment.Malformed) : Alike (.error cause) (.error cause)
  | silent : Alike (.ok none) (.ok none)
  | told {r q : Record} (kind : r.kind = q.kind) (label : r.label = q.label)
      (desc : r.desc = q.desc) (examples : r.examples = q.examples) :
      Alike (.ok (some r)) (.ok (some q))

theorem Record.ofComment_alike (block : Bool) (text : String) (seed other : Seed) :
    Record.Alike (Record.ofComment block text seed) (Record.ofComment block text other) := by
  unfold Record.ofComment
  split
  · cases Doc.ofBody (String.ofList (text.toList.drop 1)) with
    | error cause => exact .malformed cause
    | ok doc => exact .told rfl rfl rfl rfl
  · exact .silent

/-- What speaks of the file under one seed does so under every other one. -/
theorem Record.Alike.file {a b : Except Comment.Malformed (Option Record)} {r : Record}
    (alike : Record.Alike a b) (read : a = .ok (some r)) (file : r.isFile = true) :
    ∃ q, b = .ok (some q) ∧ q.isFile = true := by
  cases alike with
  | malformed cause => cases read
  | silent => cases read
  | @told _ q kind _ _ _ =>
    cases read
    exact ⟨q, rfl, by rw [isFile, ← kind]; exact file⟩

namespace Doc

theorem mergeParams_nil (comment : List Param) : mergeParams [] comment = comment := by
  have appended (list : List Param) :
      comment.foldl mergeParam ([], list) = ([], list ++ comment) := by
    induction comment generalizing list with
    | nil => simp
    | cons item rest ih =>
      rw [List.foldl_cons]
      exact (ih (list ++ [item])).trans (by simp)
  simp [mergeParams, appended]

theorem merge_named (doc : Doc) (name : String) :
    (doc.merge (.named name)).name = doc.name.getD name ∧
      (doc.merge (.named name)).params = doc.params ∧
      (doc.merge (.named name)).returns = doc.returns := by
  refine ⟨?_, mergeParams_nil doc.params, ?_⟩
  · cases said : doc.name <;> simp [merge, Seed.named, said]
  · cases said : doc.returns <;> simp [merge, Seed.named, mergeResult, said]

end Doc

namespace Extraction.Source

open Script

/-- The comments that are read at all, in the order of reading. -/
def consulted (p : Program) : List Script.Comment :=
  if p.statements.isEmpty then p.comments
  else p.statements.flatMap (leading p.comments) ++ p.comments.filter (isFree p.statements)

def fileRecord? (s : Source) (c : Script.Comment) : Option Record :=
  match Record.ofComment c.block c.text s.seed with
  | .ok record => record.filter Record.isFile
  | .error _ => none

def fileRecords (s : Source) (documentUnsupported : Bool) (p : Program) : List Record :=
  (ofFindings (s.findings documentUnsupported p)).records.filter Record.isFile

theorem mem_comments_of_consulted {p : Program} {c : Script.Comment} (read : c ∈ consulted p) :
    c ∈ p.comments := by
  unfold consulted at read
  split at read
  · exact read
  · simp only [leading, List.mem_append, List.mem_flatMap, List.mem_filter] at read
    obtain ⟨_, _, _, _, here, _⟩ | ⟨here, _⟩ := read <;> exact here

theorem fileRecord?_eq_some_iff {s : Source} {c : Script.Comment} {r : Record} :
    s.fileRecord? c = some r ↔
      Record.ofComment c.block c.text s.seed = .ok (some r) ∧ r.isFile = true := by
  unfold fileRecord?
  cases Record.ofComment c.block c.text s.seed with
  | error cause => simp
  | ok record => simp [Option.filter_eq_some_iff]

def fileRecordIn? (f : Finding) : Option Record :=
  f.record?.filter Record.isFile

/- Under any seed, and under none, a comment makes the same record about the file. -/
theorem finding_bind_fileRecord (s : Source) (seed : Option Seed) (c : Script.Comment) :
    (s.finding? seed c).bind fileRecordIn? = s.fileRecord? c := by
  unfold finding? fileRecord?
  rw [ofComment_eq]
  match c.doc? with
  | none => rfl
  | some (.error cause) => rfl
  | some (.ok doc) =>
    have kind (seed : Seed) : (doc.merge seed).isFile = decide (doc.kind = .file) := rfl
    by_cases file : doc.kind = .file
    · simp [file, fileRecordIn?, Finding.record?, Except.map]
    · cases seed <;>
        simp [file, fileRecordIn?, Finding.record?, Except.map, Option.filter_some, kind]

theorem told_eq (s : Source) (c : Script.Comment) :
    s.told s.seed c = (s.finding? (some s.seed) c).toList := by
  unfold told finding?
  rw [ofComment_eq]
  match c.doc? with
  | none => rfl
  | some (.error cause) => rfl
  | some (.ok doc) => by_cases file : doc.kind = .file <;> simp [Except.map, file]

theorem filterMap_aboutStatement (s : Source) (documentUnsupported : Bool)
    (comments : List Script.Comment) (st : Statement) :
    (s.aboutStatement documentUnsupported comments st).filterMap fileRecordIn? =
      (leading comments st).filterMap s.fileRecord? := by
  have no_report :
      ((s.unsupported? st).map Finding.problem).toList.filterMap fileRecordIn? = [] := by
    cases s.unsupported? st <;> rfl
  rw [aboutStatement_eq, List.filterMap_append, no_report, List.nil_append,
    List.filterMap_filterMap]
  simp only [finding_bind_fileRecord]

theorem fileRecords_eq (s : Source) (documentUnsupported : Bool) (p : Program) :
    s.fileRecords documentUnsupported p = (consulted p).filterMap s.fileRecord? := by
  have only : s.fileRecords documentUnsupported p =
      (s.findings documentUnsupported p).filterMap fileRecordIn? := by
    rw [fileRecords, ofFindings, List.filter_filterMap]
    rfl
  have empty : s.told s.seed = fun c => (s.finding? (some s.seed) c).toList := funext s.told_eq
  have free : s.aboutFile = fun c => (s.finding? none c).toList := funext s.aboutFile_eq
  rw [only, findings, consulted]
  split
  · rw [empty, ← List.filterMap_eq_flatMap_toList, List.filterMap_filterMap]
    simp only [finding_bind_fileRecord]
  · rw [free, ← List.filterMap_eq_flatMap_toList, List.filterMap_append, List.filterMap_flatMap,
      List.filterMap_filterMap, List.filterMap_append, List.filterMap_flatMap]
    simp only [finding_bind_fileRecord, filterMap_aboutStatement]

/-- Where a statement stands and which comments it can lead, but not what it declares. -/
def place (st : Statement) : Span × List Nat :=
  (st.span, st.anchors)

theorem consulted_congr {p q : Program} (comments : q.comments = p.comments)
    (places : q.statements.map place = p.statements.map place) : consulted q = consulted p := by
  -- Leading comments are found by anchors and free ones by anchors and spans.
  have from_places (p : Program) : consulted p =
      if (p.statements.map place).isEmpty then p.comments
      else ((p.statements.map place).flatMap fun spot =>
          spot.2.flatMap fun a => p.comments.filter fun c => c.anchor == some a) ++
        p.comments.filter fun c => (p.statements.map place).all fun spot =>
          !(spot.2.any fun a => c.anchor == some a) &&
          !(spot.1.start ≤ c.start && c.stop ≤ spot.1.stop) := by
    rw [List.isEmpty_map, List.flatMap_map]
    simp only [List.all_map]
    rfl
  rw [from_places, from_places, comments, places]

theorem aboutDeclaration_of_file (s : Source) {seed : Seed} {c : Script.Comment} {r : Record}
    (read : Record.ofComment c.block c.text seed = .ok (some r)) (file : r.isFile = true) :
    ∃ q, Record.ofComment c.block c.text s.seed = .ok (some q) ∧ q.isFile = true ∧
      s.aboutDeclaration seed c = [.record q] := by
  obtain ⟨q, again, isFile⟩ := (Record.ofComment_alike c.block c.text seed s.seed).file read file
  exact ⟨q, again, isFile, by simp [aboutDeclaration, told, read, file, again]⟩

theorem problems_aboutDeclaration (s : Source) (seed : Seed) (c : Script.Comment) :
    (s.aboutDeclaration seed c).filterMap Finding.problem? = (s.malformed? c).toList := by
  rw [aboutDeclaration_eq, ← s.finding_problem (some seed) c]
  cases s.finding? (some seed) c with
  | none => rfl
  | some f => cases f <;> rfl

theorem ofComment_seed_eq {s : Source} {c : Script.Comment} {r : Record}
    (read : Record.ofComment c.block c.text s.seed = .ok (some r)) :
    ∃ doc, c.doc? = some (.ok doc) ∧ r = doc.merge s.seed := by
  rw [ofComment_eq] at read
  match said : c.doc?, read with
  | none, read => cases read
  | some (.error cause), read => cases read
  | some (.ok doc), read => exact ⟨doc, rfl, by simpa [Except.map, eq_comm] using read⟩

/-- Every record about the file is what one comment says under the name of the file: the name is
the one the comment gives, or else that of the file, and the parameters and the result are those of
the comment. What the statements declare, and whether statements without support are documented,
makes no difference to these records. Seeds do not decide whether a comment can be read or what it
is about, so a comment about the file that was read for a declaration makes one record when it is
read again, and no comment is reported twice. -/
theorem file_records_keep_to_comments (s : Source) (documentUnsupported : Bool) (p : Program) :
    (∀ r ∈ (ofFindings (s.findings documentUnsupported p)).records, r.isFile = true →
      ∃ c ∈ p.comments, Record.ofComment c.block c.text s.seed = .ok (some r) ∧
        ∃ doc, c.doc? = some (.ok doc) ∧
          r.name = doc.name.getD ((Path.fileStem s.path).getD "") ∧
          r.params = doc.params ∧ r.returns = doc.returns) ∧
    (∀ documented q, q.comments = p.comments →
      q.statements.map place = p.statements.map place →
      s.fileRecords documented q = s.fileRecords documentUnsupported p) ∧
    (∀ block text seed other,
      Record.Alike (Record.ofComment block text seed) (Record.ofComment block text other)) ∧
    ∀ (c : Script.Comment) (seed : Seed),
      (∀ r, Record.ofComment c.block c.text seed = .ok (some r) → r.isFile = true →
        ∃ q, Record.ofComment c.block c.text s.seed = .ok (some q) ∧ q.isFile = true ∧
          s.aboutDeclaration seed c = [.record q]) ∧
      (s.aboutDeclaration seed c).filterMap Finding.problem? = (s.malformed? c).toList := by
  refine ⟨?_, ?_, Record.ofComment_alike, ?_⟩
  · intro r member file
    have about : r ∈ s.fileRecords documentUnsupported p := List.mem_filter.2 ⟨member, file⟩
    rw [fileRecords_eq] at about
    obtain ⟨c, read, made⟩ := List.mem_filterMap.1 about
    obtain ⟨said, _⟩ := fileRecord?_eq_some_iff.1 made
    obtain ⟨doc, own, rfl⟩ := ofComment_seed_eq said
    exact ⟨c, mem_comments_of_consulted read, said, doc, own, doc.merge_named _⟩
  · intro documented q comments places
    rw [fileRecords_eq, fileRecords_eq, consulted_congr comments places]
  · intro c seed
    exact ⟨fun _ read file => s.aboutDeclaration_of_file read file,
      s.problems_aboutDeclaration seed c⟩

/-- The comment leads to a function with the same parameter, whose type it does not take over. -/
theorem file_comment_before_function :
    let s : Source := ⟨"tools.ts", "/** @file Tools.\n * @param a first */ " ++
      "export function f(a: number): string \x7b\x7d"⟩
    let p : Program := {
      directives := 0
      statements := [⟨⟨38, 77⟩, .exporting (some (45, .routine (some "f")
        ⟨[⟨some "a", ⟨56, 65⟩, false, some ⟨59, 65⟩, none⟩], none, some ⟨68, 74⟩⟩)), ["f"]⟩]
      comments := [⟨true, "* @file Tools.\n * @param a first ", 0, 37, some 38⟩]
      faulty := false }
    let r : Record := {
      kind := .file
      name := "tools"
      desc := some "Tools."
      params := [{ name := "a", desc := some "first" }] }
    r ∈ (ofFindings (s.findings false p)).records ∧ r.isFile = true ∧
      ∃ c ∈ p.comments, Record.ofComment c.block c.text s.seed = .ok (some r) := by
  intro s p r
  have member : r ∈ (ofFindings (s.findings false p)).records := by decide +kernel
  obtain ⟨c, here, read, _⟩ := (file_records_keep_to_comments s false p).1 r member rfl
  exact ⟨member, rfl, c, here, read⟩

end Extraction.Source

end Commentary
