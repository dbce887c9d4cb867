import Commentary.Comment.Doc

/-! Doc comments section by section. The lines of a comment are cut at its tag lines; each section
says something on its own, and the documentation is put together from what the sections say. The
reader that goes line by line, with at most one block open, comes to the same result. -/
namespace Commentary

namespace Comment

namespace Tag

def words : Tag → List String
  | .description => ["desc", "description"]
  | .parameter => ["param", "arg", "argument"]
  | .result => ["returns", "return"]
  | .sample => ["example"]
  | .name => ["name"]
  | .label => ["alias"]
  | .file => ["file", "fileoverview", "overview"]
  | .unknown => []

theorem mem_words_iff {word : String} {tag : Tag} :
    word ∈ tag.words ↔ ofWord word = tag ∧ tag ≠ .unknown := by
  unfold ofWord
  cases tag <;> grind [words]

end Tag

/-- A tag line with the lines up to the next one. -/
structure Section where
  line : List Char
  word : String
  payload : List Char
  more : List (List Char)
  tagged : splitTag line = some (word, payload)
  untagged : ∀ other ∈ more, splitTag other = none

structure Outline where
  lead : List (List Char)
  sections : List Section
  untagged : ∀ line ∈ lead, splitTag line = none

namespace Outline

def lines (o : Outline) : List (List Char) :=
  o.lead ++ o.sections.flatMap fun s => s.line :: s.more

/-- One more line in front: a tag line takes the lead for its section. -/
def cons (line : List Char) (o : Outline) : Outline :=
  match found : splitTag line with
  | none => ⟨line :: o.lead, o.sections, List.forall_mem_cons.2 ⟨found, o.untagged⟩⟩
  | some (word, payload) =>
    ⟨[], ⟨line, word, payload, o.lead, found, o.untagged⟩ :: o.sections, by simp⟩

def ofLines : List (List Char) → Outline
  | [] => ⟨[], [], by simp⟩
  | line :: rest => (ofLines rest).cons line

theorem cons_of_untagged {line : List Char} {o : Outline} (plain : splitTag line = none) :
    (o.cons line).lead = line :: o.lead ∧ (o.cons line).sections = o.sections := by
  unfold cons
  split
  · exact ⟨rfl, rfl⟩
  · rename_i found
    cases plain.symm.trans found

theorem cons_of_tagged {line : List Char} {o : Outline} {word : String} {payload : List Char}
    (found : splitTag line = some (word, payload)) :
    (o.cons line).lead = [] ∧
      (o.cons line).sections = ⟨line, word, payload, o.lead, found, o.untagged⟩ :: o.sections := by
  unfold cons
  split
  · rename_i plain
    cases plain.symm.trans found
  · rename_i word' payload' found'
    obtain ⟨rfl, rfl⟩ : word' = word ∧ payload' = payload := by simpa [found'] using found
    exact ⟨rfl, rfl⟩

theorem lines_cons (line : List Char) (o : Outline) : (o.cons line).lines = line :: o.lines := by
  cases found : splitTag line with
  | none =>
    obtain ⟨lead, sections⟩ := cons_of_untagged (o := o) found
    simp [lines, lead, sections]
  | some tag =>
    obtain ⟨lead, sections⟩ := cons_of_tagged (o := o) found
    simp [lines, lead, sections]

theorem lines_ofLines (list : List (List Char)) : (ofLines list).lines = list := by
  induction list with
  | nil => rfl
  | cons line rest ih => rw [ofLines, lines_cons, ih]

end Outline

namespace Section

def header? (tag : Tag) (named : Bool) (s : Section) :
    Option (Except Malformed (Param × List Char)) :=
  if s.word ∈ tag.words then some (readHeader s.word s.payload named) else none

/-- Why a section spoils the comment, if it does. -/
def rejection? (s : Section) : Option Malformed :=
  ((s.header? .parameter true).or (s.header? .result false)).bind fun
    | .error cause => some cause
    | .ok _ => none

/-- The parameter or result of a section. The description goes on in the lines behind the
header. -/
def item? (tag : Tag) (named : Bool) (s : Section) : Option Param :=
  (s.header? tag named).bind fun
    | .error _ => none
    | .ok (item, first) => some { item with desc := content (first :: s.more) }

def param? : Section → Option Param := item? .parameter true

def result? : Section → Option Param := item? .result false

/-- What a section adds to the description. A name ends the text before it, but the lines behind
the name are description again. -/
def text? (s : Section) : Option String :=
  if s.word ∈ Tag.words .description ∨ s.word ∈ Tag.words .file then
    content (Text.trim s.payload :: s.more)
  else if s.word ∈ Tag.words .name ∨ s.word ∈ Tag.words .label then content s.more
  else none

def example? (s : Section) : Option String :=
  if s.word ∈ Tag.words .sample then renderExample (Text.trim s.payload :: s.more) else none

def concernsFile (s : Section) : Bool :=
  s.word ∈ Tag.words .file

def isKnown (s : Section) : Bool :=
  [Tag.description, .parameter, .result, .sample, .name, .label, .file].any (s.word ∈ ·.words)

end Section

def paragraphs (texts : List String) : Option String :=
  if texts.isEmpty then none else some ("\n".intercalate texts)

def insertParam (params : List Param) (item : Param) : List Param :=
  (Param.updateNamed item.name (Doc.fold · item) params).getD (params ++ [item])

def foldResults : List Param → Option Param
  | [] => none
  | first :: more => some (more.foldl Doc.fold first)

namespace Outline

/-- The payload of the last section of a tag, unless it is blank. -/
def last? (tag : Tag) (o : Outline) : Option String :=
  (o.sections.filter (·.word ∈ tag.words)).getLast?.bind fun s => Text.nonBlank s.payload

/-- The first header that cannot be read spoils the comment. Otherwise each field is collected
from the sections that speak of it. -/
def read (o : Outline) : Except Malformed Doc :=
  match o.sections.findSome? Section.rejection? with
  | some cause => .error cause
  | none => .ok {
      kind := if o.sections.any Section.concernsFile then .file else .block
      name := o.last? .name
      label := o.last? .label
      desc := paragraphs ((content o.lead).toList ++ o.sections.filterMap Section.text?)
      params := (o.sections.filterMap Section.param?).foldl insertParam []
      returns := foldResults (o.sections.filterMap Section.result?)
      examples := o.sections.filterMap Section.example? }

theorem folded_of_read {o : Outline} {doc : Doc} (done : o.read = .ok doc) :
    doc.params = (o.sections.filterMap Section.param?).foldl insertParam [] ∧
      doc.returns = foldResults (o.sections.filterMap Section.result?) := by
  unfold read at done
  split at done
  · cases done
  · cases done
    exact ⟨rfl, rfl⟩

def known (o : Outline) : Outline :=
  { o with sections := o.sections.filter Section.isKnown }

end Outline

end Comment

attribute [ext] Doc

namespace Doc

open Comment

def continued (block : Option Block) (run : List (List Char)) : Option Block :=
  run.foldl (fun block line => some ((block.getD (.description [])).push line)) block

/-- A section as a whole: its tag line opens a block and its other lines continue it. -/
def absorb (doc : Doc) (s : Section) : Except Malformed Doc :=
  (doc.openTag s.word s.payload).map fun state => state.1.flush (continued state.2 s.more)

/- The block that is open before the first line takes the lead of the outline. -/
theorem foldlM_step_eq_absorb (list : List (List Char)) (doc : Doc) (block : Option Block) :
    (list.foldlM step (doc, block)).map (fun state => state.1.flush state.2) =
      (Outline.ofLines list).sections.foldlM absorb
        (doc.flush (continued block (Outline.ofLines list).lead)) := by
  induction list generalizing doc block with
  | nil => rfl
  | cons line rest ih =>
    rw [List.foldlM_cons, step, Outline.ofLines]
    cases found : splitTag line with
    | none =>
      obtain ⟨lead, sections⟩ := Outline.cons_of_untagged (o := .ofLines rest) found
      rw [lead, sections]
      exact ih doc _
    | some tag =>
      -- The lead of the remaining lines belongs to the tag line, so its block is closed there.
      obtain ⟨lead, sections⟩ := Outline.cons_of_tagged (o := .ofLines rest) found
      rw [lead, sections, List.foldlM_cons, absorb]
      show ((doc.flush block).openTag tag.1 tag.2 >>= _).map _ =
        ((doc.flush block).openTag tag.1 tag.2).map _ >>= _
      cases (doc.flush block).openTag tag.1 tag.2 with
      | error cause => rfl
      | ok state => exact ih state.1 state.2

-- An open block keeps its lines newest first.
def Block.append (run : List (List Char)) : Block → Block
  | .description lines => .description (run.reverse ++ lines)
  | .parameter item lines => .parameter item (run.reverse ++ lines)
  | .result item lines => .result item (run.reverse ++ lines)
  | .sample lines => .sample (run.reverse ++ lines)
  | .ignored => .ignored

theorem continued_some (run : List (List Char)) (b : Block) :
    continued (some b) run = some (b.append run) := by
  induction run generalizing b with
  | nil => cases b <;> rfl
  | cons line rest ih =>
    show continued (some (b.push line)) rest = _
    rw [ih]
    cases b <;> simp [Block.append, Block.push]

@[simp] theorem flush_continued_some (doc : Doc) (run : List (List Char)) (b : Block) :
    doc.flush (continued (some b) run) = doc.close (b.append run) := by
  rw [continued_some]
  rfl

@[simp] theorem stack_none (text : Option String) : stack text none = text := by
  cases text <;> rfl

@[simp] theorem flush_continued_none (doc : Doc) (run : List (List Char)) :
    doc.flush (continued none run) = { doc with desc := stack doc.desc (content run) } := by
  cases run with
  | nil => simp [continued, flush, content, trimLines]
  | cons line rest =>
    -- The first line opens a description, the others go on with it.
    show doc.flush (continued (some (.description [line])) rest) = _
    simp [Block.append, close]

/-- What a section that can be read says, added to what the sections before it said. -/
def withSection (doc : Doc) (s : Section) : Doc where
  kind := if s.concernsFile then .file else doc.kind
  name := if s.word ∈ Tag.words .name then Text.nonBlank s.payload else doc.name
  label := if s.word ∈ Tag.words .label then Text.nonBlank s.payload else doc.label
  desc := stack doc.desc s.text?
  params := (s.param?.elim doc doc.addParam).params
  returns := (s.result?.elim doc doc.addResult).returns
  examples := doc.examples ++ s.example?.toList

/- Each tag has its own case: which of the readers of a section answers, and whether the block is
one that takes the lines behind the tag. -/
theorem absorb_eq (doc : Doc) (s : Section) :
    doc.absorb s =
      match s.rejection? with
      | some cause => .error cause
      | none => .ok (doc.withSection s) := by
  unfold absorb openTag Section.rejection? withSection Section.concernsFile Section.text?
    Section.param? Section.result? Section.item? Section.header? Section.example?
  simp only [Tag.mem_words_iff]
  cases tag : Tag.ofWord s.word with
  | description => simp [Except.map, Block.append, close]
  | parameter =>
    cases read : readHeader s.word s.payload true with
    | error cause => simp [Except.map]
    | ok header => simp [Except.map, Block.append, close, addParam]
  | result =>
    cases read : readHeader s.word s.payload false with
    | error cause => simp [Except.map]
    | ok header => simp [Except.map, Block.append, close, addResult]
  | sample => simp [Except.map, Block.append, close]
  | name => simp [Except.map]
  | label => simp [Except.map]
  | file => simp [Except.map, Block.append, close]
  | unknown => simp [Except.map, Block.append, close]

theorem foldlM_absorb (list : List Section) (doc : Doc) :
    list.foldlM absorb doc =
      match list.findSome? Section.rejection? with
      | some cause => .error cause
      | none => .ok (list.foldl withSection doc) := by
  induction list generalizing doc with
  | nil => rfl
  | cons s rest ih =>
    rw [List.foldlM_cons, absorb_eq, List.findSome?_cons, List.foldl_cons]
    cases s.rejection? with
    | some cause => rfl
    | none => exact ih _

section Fields

variable (list : List Section) (doc : Doc)

theorem kind_foldl : (list.foldl withSection doc).kind =
    if list.any Section.concernsFile then .file else doc.kind := by
  induction list generalizing doc with
  | nil => rfl
  | cons s rest ih =>
    rw [List.foldl_cons, ih, List.any_cons]
    cases here : s.concernsFile <;> simp [withSection, here]

/- The name and the label are set alike, each by its own tag. -/
theorem last_foldl (tag : Tag) (field : Doc → Option String)
    (set : ∀ doc s, field (withSection doc s) =
      if s.word ∈ tag.words then Text.nonBlank s.payload else field doc) :
    field (list.foldl withSection doc) =
      ((list.filter (·.word ∈ tag.words)).getLast?.map (Text.nonBlank ·.payload)).getD
        (field doc) := by
  induction list generalizing doc with
  | nil => rfl
  | cons s rest ih =>
    rw [List.foldl_cons, ih, set]
    by_cases here : s.word ∈ tag.words
    · rw [List.filter_cons_of_pos (by simpa using here), List.getLast?_cons]
      cases (rest.filter (·.word ∈ tag.words)).getLast? <;> simp [here]
    · rw [List.filter_cons_of_neg (by simpa using here), if_neg here]

theorem stack_paragraphs (texts : List String) (text : Option String) :
    stack (paragraphs texts) text = paragraphs (texts ++ text.toList) := by
  cases text with
  | none => simp
  | some last =>
    cases texts with
    | nil => simp [paragraphs, stack]
    | cons first more =>
      have joined : "\n".intercalate (first :: more ++ [last]) =
          "\n".intercalate (first :: more) ++ "\n" ++ last := by
        rw [String.intercalate_append_of_ne_nil (by simp) (by simp), String.intercalate_singleton]
      simpa [paragraphs, stack] using joined.symm

theorem desc_foldl (texts : List String) (before : doc.desc = paragraphs texts) :
    (list.foldl withSection doc).desc = paragraphs (texts ++ list.filterMap Section.text?) := by
  induction list generalizing doc texts with
  | nil => simpa using before
  | cons s rest ih =>
    have next : (doc.withSection s).desc = paragraphs (texts ++ s.text?.toList) := by
      rw [withSection, before, stack_paragraphs]
    rw [List.foldl_cons, ih _ _ next, List.append_assoc]
    cases said : s.text? <;> simp [said]

theorem params_foldl : (list.foldl withSection doc).params =
    (list.filterMap Section.param?).foldl insertParam doc.params := by
  induction list generalizing doc with
  | nil => rfl
  | cons s rest ih =>
    rw [List.foldl_cons, ih]
    cases said : s.param? <;> simp [withSection, said, addParam, insertParam]

theorem foldResults_append (items more : List Param) :
    foldResults ((foldResults items).toList ++ more) = foldResults (items ++ more) := by
  cases items with
  | nil => rfl
  | cons first others => simp [foldResults]

theorem returns_foldl : (list.foldl withSection doc).returns =
    foldResults (doc.returns.toList ++ list.filterMap Section.result?) := by
  induction list generalizing doc with
  | nil => cases before : doc.returns <;> simp [before, foldResults]
  | cons s rest ih =>
    have next : (doc.withSection s).returns =
        foldResults (doc.returns.toList ++ s.result?.toList) := by
      cases said : s.result? <;> cases before : doc.returns <;>
        simp [withSection, said, before, addResult, foldResults]
    rw [List.foldl_cons, ih, next, foldResults_append, List.append_assoc]
    cases said : s.result? <;> simp [said]

theorem examples_foldl : (list.foldl withSection doc).examples =
    doc.examples ++ list.filterMap Section.example? := by
  induction list generalizing doc with
  | nil => simp
  | cons s rest ih =>
    rw [List.foldl_cons, ih]
    cases said : s.example? <;> simp [withSection, said]

end Fields

theorem foldl_withSection (o : Outline) :
    o.sections.foldl withSection { desc := content o.lead } = {
      kind := if o.sections.any Section.concernsFile then .file else .block
      name := o.last? .name
      label := o.last? .label
      desc := paragraphs ((content o.lead).toList ++ o.sections.filterMap Section.text?)
      params := (o.sections.filterMap Section.param?).foldl insertParam []
      returns := foldResults (o.sections.filterMap Section.result?)
      examples := o.sections.filterMap Section.example? } := by
  have lead : content o.lead = paragraphs (content o.lead).toList := by
    cases content o.lead <;> simp [paragraphs]
  have last (tag : Tag) : ((o.sections.filter (·.word ∈ tag.words)).getLast?.map
      (Text.nonBlank ·.payload)).getD none = o.last? tag := by
    unfold Outline.last?
    cases (o.sections.filter (·.word ∈ tag.words)).getLast? <;> rfl
  apply Doc.ext
  · exact kind_foldl ..
  · exact (last_foldl _ _ .name Doc.name fun _ _ => rfl).trans (last .name)
  · exact (last_foldl _ _ .label Doc.label fun _ _ => rfl).trans (last .label)
  · exact desc_foldl _ _ _ lead
  · exact params_foldl ..
  · exact returns_foldl ..
  · exact examples_foldl ..

theorem ofBody_eq_read (body : String) :
    ofBody body = (Outline.ofLines (logicalLines body.toList)).read := by
  generalize lined : Outline.ofLines (logicalLines body.toList) = o
  have run := foldlM_step_eq_absorb (logicalLines body.toList) {} none
  rw [lined, flush_continued_none, foldlM_absorb] at run
  calc
    ofBody body = ((logicalLines body.toList).foldlM step ({}, none)).map
        fun state => state.1.flush state.2 := by
      unfold ofBody
      cases (logicalLines body.toList).foldlM step ({}, none) <;> rfl
    _ = o.read := by
      rw [run, Outline.read, ← foldl_withSection]
      rfl

end Doc

namespace Comment

namespace Outline

end Outline

end Comment

end Commentary
