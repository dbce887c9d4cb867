import Commentary.Page
import Commentary.Proofs.Tidiness
import Mathlib.Data.List.Forall2

/-! The list of parameters on a page, line by line. Every text that goes into the line of an entry
stays on that line if it has no line feed of its own; descriptions are cut into lines and moved
below the entry. -/
namespace Commentary.Text

def OneLine (text : String) : Prop :=
  '\n' ∉ text.toList

@[simp] theorem oneLine_append {a b : String} : OneLine (a ++ b) ↔ OneLine a ∧ OneLine b := by
  simp [OneLine]

theorem oneLine_intercalate {separator : String} (single : OneLine separator)
    (texts : List String) : OneLine (separator.intercalate texts) ↔ ∀ t ∈ texts, OneLine t := by
  induction texts with
  | nil => simp [OneLine]
  | cons text more ih =>
    cases more with
    | nil => simp
    | cons next others =>
      rw [String.intercalate_cons_cons, oneLine_append, oneLine_append, ih]
      simp [single]

theorem cut_flatMap {separator : Char} (start : List Char) {pieces : List (List Char)}
    (absent : ∀ piece ∈ pieces, separator ∉ piece) :
    cut separator (start ++ pieces.flatMap (separator :: ·)) = cut separator start ++ pieces := by
  induction pieces generalizing start with
  | nil => simp
  | cons piece more ih =>
    obtain ⟨here, later⟩ := List.forall_mem_cons.1 absent
    rw [List.flatMap_cons, List.cons_append, cut_append, ih piece later, cut_of_not_mem here]
    rfl

end Commentary.Text

namespace Commentary.Page

open Text

def isBullet (line : List Char) : Bool :=
  "- ".toList.isPrefixOf line

def isIndented (line : List Char) : Bool :=
  "    ".toList.isPrefixOf line

def bullet (locale : Locale) (p : Param) : List Char :=
  ("- " ++ entryLine locale p).toList

/-- The lines of a description that are not empty. -/
def rows (p : Param) : List (List Char) :=
  (p.desc.elim [] fun desc => lines (trim desc.toList)).filter (!·.isEmpty)

/-- The lines of one entry: its bullet, and its description indented by four spaces. -/
def Item (locale : Locale) (p : Param) (group : List (List Char)) : Prop :=
  ∃ more, group = [] :: bullet locale p :: more ∧
    (∀ line ∈ more, line = [] ∨ isIndented line = true) ∧
    (more.filter isIndented).map (·.drop 4) = rows p

/-- A heading with a list below it that has one item for each entry. -/
structure LaidOut (locale : Locale) (title : String) (list : List Param)
    (lines : List (List Char)) : Prop where
  bullets : lines.filter isBullet = list.map (bullet locale)
  items : ∃ groups, lines = ("#### " ++ title).toList :: groups.flatten ∧
    List.Forall₂ (Item locale) list groups

theorem oneLine_code (value : String) : OneLine (code value) ↔ OneLine value := by
  unfold code
  have fence (n : Nat) : OneLine (String.ofList (List.replicate n backtick)) := by
    simp [OneLine, backtick]
  have space : OneLine " " := by simp [OneLine]
  have tick : OneLine "`" := by simp [OneLine]
  split
  · simp [tick]
  · simp [fence, space]

theorem oneLine_escapeAngles (text : String) : OneLine (escapeAngles text) ↔ OneLine text := by
  have feed (c : Char) : '\n' ∈ escapeAngle c ↔ '\n' = c := by
    unfold escapeAngle
    split <;> simp
  simp [OneLine, escapeAngles, feed]

theorem oneLine_entryLine {locale : Locale} {p : Param} (optional : OneLine locale.optional)
    (defaultAs : OneLine locale.defaultAs) (name : OneLine p.name) :
    OneLine (entryLine locale p) ↔
      (∀ t ∈ p.types, OneLine t) ∧ ∀ d, p.default = some d → OneLine d := by
  have types : OneLine (escapeAngles (" | ".intercalate p.types)) ↔ ∀ t ∈ p.types, OneLine t := by
    rw [oneLine_escapeAngles, oneLine_intercalate (by simp [OneLine])]
  have typed : (∀ t ∈ if (escapeAngles (" | ".intercalate p.types)).isEmpty then []
      else ["*" ++ escapeAngles (" | ".intercalate p.types) ++ "*"], OneLine t) ↔
      ∀ t ∈ p.types, OneLine t := by
    rw [← types]
    split
    · rename_i nothing
      simp [String.isEmpty_iff.1 nothing, OneLine]
    · have star : OneLine "*" := by simp [OneLine]
      simp [star]
  have named : ∀ t ∈ if p.name.isEmpty then [] else [code p.name], OneLine t := by
    split <;> simp [oneLine_code, name]
  have marked : ∀ t ∈ if p.optional then ["(" ++ locale.optional ++ ")"] else [], OneLine t := by
    have brackets : OneLine "(" ∧ OneLine ")" := by simp [OneLine]
    split <;> simp [brackets, optional]
  have given : (∀ t ∈ (p.default.map fun d => locale.defaultAs ++ " " ++ code d).toList,
      OneLine t) ↔ ∀ d, p.default = some d → OneLine d := by
    have space : OneLine " " := by simp [OneLine]
    cases p.default <;> simp [defaultAs, space, oneLine_code]
  rw [entryLine, oneLine_intercalate (by simp [OneLine]), List.forall_mem_append,
    List.forall_mem_append, List.forall_mem_append, typed, given]
  exact ⟨fun all => ⟨all.1.1.2, all.2⟩, fun both => ⟨⟨⟨named, both.1⟩, marked⟩, both.2⟩⟩

def indented (row : List Char) : List Char :=
  if row.isEmpty then [] else "    ".toList ++ row

def descLines (desc : Option String) : List (List Char) :=
  match desc.bind fun d => nonBlank d.toList with
  | some text => [] :: (lines text.toList).map indented
  | none => []

def entryLines (locale : Locale) (p : Param) : List (List Char) :=
  [] :: bullet locale p :: descLines p.desc

theorem entryDesc_eq (desc : Option String) :
    (entryDesc desc).toList = (descLines desc).flatMap ('\n' :: ·) := by
  have row (line : List Char) : (indent line).toList = '\n' :: indented line := by
    unfold indent indented
    split <;> simp
  unfold entryDesc descLines
  cases desc.bind fun d => nonBlank d.toList with
  | none => rfl
  | some text => simp [String.toList_join, List.flatMap_map, row]

theorem entry_eq (locale : Locale) (p : Param) :
    (entry locale p).toList = (entryLines locale p).flatMap ('\n' :: ·) := by
  simp [entry, entryLines, bullet, entryDesc_eq]

theorem entries_eq (locale : Locale) (title : String) (list : List Param) :
    (entries locale title list).toList =
      ("#### " ++ title).toList ++ (list.flatMap (entryLines locale)).flatMap ('\n' :: ·) := by
  simp [entries, String.toList_join, List.flatMap_map, entry_eq, List.flatMap_assoc]

theorem isIndented_indented (row : List Char) : isIndented (indented row) = !row.isEmpty := by
  cases row <;> simp [indented, isIndented]

theorem rows_eq (p : Param) :
    ((descLines p.desc).filter isIndented).map (·.drop 4) = rows p := by
  have unindent (text : List Char) :
      (((lines text).map indented).filter isIndented).map (·.drop 4) =
        (lines text).filter (!·.isEmpty) := by
    induction lines text with
    | nil => rfl
    | cons row more ih =>
      rw [List.map_cons, List.filter_cons, List.filter_cons, isIndented_indented]
      cases row with
      | nil => simpa using ih
      | cons c rest => simpa [indented] using ih
  unfold descLines rows
  cases p.desc with
  | none => rfl
  | some desc =>
    rw [Option.bind_some, Option.elim_some, nonBlank]
    by_cases nothing : trim desc.toList = []
    · simp [nothing, lines]
    · have empty : isIndented [] = false := by decide
      simp [nothing, unindent, empty]

theorem mem_descLines {desc : Option String} {line : List Char} (member : line ∈ descLines desc) :
    line = [] ∨ ∃ row, '\n' ∉ row ∧ line = "    ".toList ++ row := by
  unfold descLines at member
  split at member
  · rename_i text _
    rcases List.mem_cons.1 member with rfl | below
    · exact .inl rfl
    · obtain ⟨row, cutOff, rfl⟩ := List.mem_map.1 below
      unfold indented
      split
      · exact .inl rfl
      · exact .inr ⟨row, not_mem_lines _ row cutOff, rfl⟩
  · cases member

theorem item_entryLines (locale : Locale) (p : Param) : Item locale p (entryLines locale p) := by
  refine ⟨descLines p.desc, rfl, ?_, rows_eq p⟩
  intro line member
  rcases mem_descLines member with empty | ⟨row, _, rfl⟩
  · exact .inl empty
  · exact .inr (by simp [isIndented])

theorem entryLines_single {locale : Locale} {p : Param} (single : OneLine (entryLine locale p)) :
    ∀ line ∈ entryLines locale p, '\n' ∉ line := by
  have dash : OneLine "- " := by simp [OneLine]
  intro line member
  rcases List.mem_cons.1 member with rfl | member
  · simp
  rcases List.mem_cons.1 member with rfl | member
  · exact oneLine_append.2 ⟨dash, single⟩
  rcases mem_descLines member with rfl | ⟨row, inside, rfl⟩
  · simp
  · simpa using inside

theorem cut_entries {locale : Locale} {title : String} {list : List Param} (heading : OneLine title)
    (single : ∀ p ∈ list, OneLine (entryLine locale p)) :
    cut '\n' (entries locale title list).toList =
      ("#### " ++ title).toList :: (list.map (entryLines locale)).flatten := by
  have marks : OneLine "#### " := by simp [OneLine]
  have first : '\n' ∉ ("#### " ++ title).toList := oneLine_append.2 ⟨marks, heading⟩
  have lines : ∀ line ∈ list.flatMap (entryLines locale), '\n' ∉ line := by
    intro line member
    obtain ⟨p, here, own⟩ := List.mem_flatMap.1 member
    exact entryLines_single (single p here) line own
  rw [entries_eq, cut_flatMap _ lines, cut_of_not_mem first, List.flatMap_def]
  rfl

theorem isBullet_of_ne {c : Char} (other : '-' ≠ c) (rest : List Char) :
    isBullet (c :: rest) = false := by
  simp [isBullet, List.isPrefixOf, other]

/- A bullet starts with a dash, and the other lines of an item with a space or not at all. -/
theorem Item.bullets {locale : Locale} {p : Param} {group : List (List Char)}
    (item : Item locale p group) : group.filter isBullet = [bullet locale p] := by
  obtain ⟨more, rfl, others, _⟩ := item
  have dashed : isBullet (bullet locale p) = true := by simp [isBullet, bullet]
  have empty : isBullet [] = false := by decide
  have none : ∀ line ∈ more, isBullet line = false := by
    intro line member
    rcases others line member with rfl | spaced
    · exact empty
    · obtain ⟨row, rfl⟩ := List.isPrefixOf_iff_prefix.1 spaced
      exact isBullet_of_ne (by decide) _
  have rest : more.filter isBullet = [] := List.filter_eq_nil_iff.2 fun line member => by
    simp [none line member]
  simp [empty, dashed, rest]

theorem laidOut_of_items {locale : Locale} {title : String} {list : List Param}
    {groups : List (List (List Char))} (items : List.Forall₂ (Item locale) list groups) :
    LaidOut locale title list (("#### " ++ title).toList :: groups.flatten) := by
  refine ⟨?_, groups, rfl, items⟩
  have heading : isBullet ("#### " ++ title).toList = false := by
    rw [String.toList_append]
    exact isBullet_of_ne (by decide) _
  rw [List.filter_cons_of_neg (Bool.eq_false_iff.1 heading)]
  induction items with
  | nil => rfl
  | cons item _ ih => rw [List.flatten_cons, List.filter_append, item.bullets, ih]; rfl

/-- With words and names on one line each, a list has one item for each entry exactly if the types
and defaults are on one line each, too. Descriptions may have any number of lines. -/
theorem laid_out_iff_one_line (locale : Locale) (title : String) (list : List Param)
    (heading : OneLine title) (optional : OneLine locale.optional)
    (defaultAs : OneLine locale.defaultAs) (names : ∀ p ∈ list, OneLine p.name) :
    LaidOut locale title list (cut '\n' (entries locale title list).toList) ↔
      ∀ p ∈ list, (∀ t ∈ p.types, OneLine t) ∧ ∀ d, p.default = some d → OneLine d := by
  have lines : (∀ p ∈ list, (∀ t ∈ p.types, OneLine t) ∧ ∀ d, p.default = some d → OneLine d) ↔
      ∀ p ∈ list, OneLine (entryLine locale p) :=
    forall₂_congr fun p member => (oneLine_entryLine optional defaultAs (names p member)).symm
  rw [lines]
  constructor
  · intro laid p member
    have found : bullet locale p ∈ cut '\n' (entries locale title list).toList := by
      refine List.mem_of_mem_filter (p := isBullet) ?_
      rw [laid.bullets]
      exact List.mem_map_of_mem member
    have single : OneLine ("- " ++ entryLine locale p) :=
      fun feed => (mem_of_mem_cut found _ feed).2 rfl
    exact (oneLine_append.1 single).2
  · intro single
    rw [cut_entries heading single]
    refine laidOut_of_items ?_
    rw [List.forall₂_map_right_iff]
    exact List.forall₂_same.2 fun p _ => item_entryLines locale p

/-- A description with a dash of its own, and an entry that says nothing. -/
theorem dashed_description_laid_out :
    let list : List Param := [
      { name := "a", types := ["A<B>", "C"], desc := some " one\n\n- two\n" },
      { }]
    let lines := cut '\n' (entries { } "Params" list).toList
    lines.map String.ofList = ["#### Params",
      "", "- `a` *A\\<B\\> | C*", "", "    one", "", "    - two",
      "", "- "] ∧
      LaidOut { } "Params" list lines := by
  intro list lines
  refine ⟨by decide +kernel, (laid_out_iff_one_line { } "Params" list ?_ ?_ ?_ ?_).2 ?_⟩
  all_goals simp [list, OneLine]

/-- The second line of a default is taken for a further entry. -/
theorem broken_default_forges_bullet :
    let p : Param := { name := "x", optional := true, default := some "10\n- 5" }
    let lines := cut '\n' (entries { } "Params" [p]).toList
    (lines.filter isBullet).map String.ofList = ["- `x` (optional) Default: `10", "- 5`"] ∧
      ¬ LaidOut { } "Params" [p] lines := by
  intro p lines
  have forged : (lines.filter isBullet).map String.ofList =
      ["- `x` (optional) Default: `10", "- 5`"] := by decide +kernel
  refine ⟨forged, fun laid => ?_⟩
  rw [laid.bullets] at forged
  simp at forged

end Commentary.Page
