import Commentary.Proofs.Tidiness

/-! Fences around examples. An example that has a fence of its own is passed through, and any other
one is put between two fences. What comes out has a fence in either case and no blank line at its
ends, so it is passed through when it is read again. -/
namespace Commentary.Comment

open Text

theorem filled_of_isFence {line : List Char} (fence : isFence line = true) :
    isBlankLine line = false := by
  rw [Bool.eq_false_iff]
  intro blank
  have nothing : trimStart line = [] := List.dropWhile_eq_nil_iff.2 (List.all_eq_true.1 blank)
  rw [isFence, nothing] at fence
  exact absurd fence (by decide)

/- A caption starts as its line does behind the white space. -/
theorem isFence_trim {line : List Char} (plain : isFence line = false) :
    isFence (trim line) = false := by
  have stripped : trimStart (trim line) = trim line := by
    rw [← trimStart_trimEnd, trimStart_trimStart]
  have start : trim line <+: trimStart line := List.rdropWhile_prefix _ _
  rw [Bool.eq_false_iff, isFence, stripped] at *
  intro fence
  exact plain (List.isPrefixOf_iff_prefix.2 ((List.isPrefixOf_iff_prefix.1 fence).trans start))

/-- The caption of an example, if it has one. -/
def captions (list : List (List Char)) : List (List Char) :=
  if isBlankLine (list.headD []) then [] else [trim (list.headD [])]

def openingFence : List Char := "```js".toList

def closingFence : List Char := "```".toList

section Wrapped

variable {list : List (List Char)} {text : String}

theorem renderExample_eq_none_iff :
    renderExample list = none ↔ ∀ line ∈ list, isBlankLine line = true := by
  unfold renderExample
  split
  · exact content_eq_none_iff
  · cases list with
    | nil => simp [nonBlank_eq, isBlankLine, content, trimLines]
    | cons line rest =>
      have code : content rest = none ↔ ∀ line ∈ rest, isBlankLine line = true :=
        content_eq_none_iff
      have caption : nonBlank line = none ↔ isBlankLine line = true := by simp [nonBlank_eq]
      simp [code, caption]

theorem cut_captions (single : ∀ line ∈ list, '\n' ∉ line) :
    ((nonBlank (list.headD [])).toList.flatMap fun t => cut '\n' t.toList) = captions list := by
  have caption : '\n' ∉ list.headD [] := by
    cases list with
    | nil => exact List.not_mem_nil
    | cons line rest => exact single line List.mem_cons_self
  rw [nonBlank_eq, captions]
  split
  · rfl
  · simpa using cut_of_not_mem (clean_trim caption).single

theorem cut_code (single : ∀ line ∈ list, '\n' ∉ line) :
    ((content list).toList.flatMap fun t => cut '\n' t.toList) = trimLines list := by
  cases kept : content list with
  | none => exact (trimLines_eq_nil_iff.2 (content_eq_none_iff.1 kept)).symm
  | some text => simpa using cut_content single kept

theorem cut_wrapped (plain : ∀ line ∈ list, isFence line = false)
    (single : ∀ line ∈ list, '\n' ∉ line) (kept : renderExample list = some text) :
    cut '\n' text.toList =
      captions list ++ openingFence :: (trimLines list.tail ++ [closingFence]) := by
  have unfenced : ¬ list.any isFence = true := by
    simpa [List.any_eq_true] using plain
  have rest : ∀ line ∈ list.drop 1, '\n' ∉ line := fun line member =>
    single line (List.mem_of_mem_drop member)
  rw [renderExample, if_neg unfenced] at kept
  dsimp only at kept
  split at kept
  · cases kept
  · cases kept
    rw [cut_intercalate (by simp), List.flatMap_append, List.flatMap_append, List.flatMap_append,
      cut_captions single, cut_code rest, List.drop_one, List.append_assoc, List.append_assoc]
    rfl

/- Whatever has a fence and no blank line at its ends is passed through as it is. -/
theorem renderExample_rows (fence : ∃ row ∈ cut '\n' text.toList, isFence row = true)
    (first : ∀ row, (cut '\n' text.toList).head? = some row → isBlankLine row = false)
    (last : ∀ row, (cut '\n' text.toList).getLast? = some row → isBlankLine row = false) :
    renderExample (cut '\n' text.toList) = some text := by
  have some_row : cut '\n' text.toList ≠ [] := cut_ne_nil _
  rw [renderExample, if_pos (List.any_eq_true.2 fence), content, trimLines_of_ends first last,
    if_neg (by simpa using some_row), unlines, joined_cut, String.ofList_toList]

theorem lines_eq_cut {text : List Char} (ended : ∀ row ∈ cut '\n' text, row.getLast? ≠ some '\r')
    (last : (cut '\n' text).getLast? ≠ some []) : lines text = cut '\n' text := by
  have single : ∀ row ∈ cut '\n' text, '\n' ∉ row := fun row member feed =>
    (mem_of_mem_cut member _ feed).2 rfl
  have read := lines_unlines single ended last
  rwa [unlines, joined_cut] at read

end Wrapped

/-- What an example reads like, and what it reads like again. -/
structure FencedOnce (list : List (List Char)) (text : String) : Prop where
  fence : ∃ row ∈ cut '\n' text.toList, isFence row = true
  again : renderExample (cut '\n' text.toList) = some text
  /-- Where a carriage return can be part of a line end, no line may end in one. -/
  relined : (∀ line ∈ list, line.getLast? ≠ some '\r') →
    renderExample (lines text.toList) = some text
  passed : (∃ line ∈ list, isFence line = true) → Core list (cut '\n' text.toList)
  wrapped : (∀ line ∈ list, isFence line = false) → ∃ code, Core list.tail code ∧
    cut '\n' text.toList = captions list ++ openingFence :: (code ++ [closingFence]) ∧
    ∀ row ∈ captions list ++ code, isFence row = false

theorem isFence_opening : isFence openingFence = true := by decide

theorem isFence_closing : isFence closingFence = true := by decide

section Again

variable {list : List (List Char)} {text : String}

theorem relined_of_rows (again : renderExample (cut '\n' text.toList) = some text)
    (last : ∀ row, (cut '\n' text.toList).getLast? = some row → isBlankLine row = false)
    (ended : ∀ row ∈ cut '\n' text.toList, row.getLast? ≠ some '\r') :
    renderExample (lines text.toList) = some text := by
  rw [lines_eq_cut ended fun nothing => absurd (last [] nothing) (by decide), again]

theorem fencedOnce_of_fence (fence : ∃ line ∈ list, isFence line = true)
    (single : ∀ line ∈ list, '\n' ∉ line) (kept : renderExample list = some text) :
    FencedOnce list text := by
  rw [renderExample, if_pos (List.any_eq_true.2 fence)] at kept
  have rows := cut_content single kept
  have core := core_trimLines list
  have inside : ∃ row ∈ trimLines list, isFence row = true := by
    obtain ⟨line, member, fenced⟩ := fence
    exact ⟨line, mem_trimLines member (filled_of_isFence fenced), fenced⟩
  rw [← rows] at core inside
  have again := renderExample_rows inside core.first core.last
  refine ⟨inside, again, fun ended => ?_, fun _ => core, fun plain => ?_⟩
  · exact relined_of_rows again core.last fun row member =>
      ended row (trimLines_subset (rows ▸ member))
  · obtain ⟨line, member, fenced⟩ := fence
    simp [plain line member] at fenced

theorem mem_captions {row : List Char} (member : row ∈ captions list) :
    isBlankLine row = false ∧ row.getLast? ≠ some '\r' ∧
      ∃ line ∈ list, row = trim line := by
  unfold captions at member
  split at member
  · cases member
  · rename_i filled
    obtain rfl := List.mem_singleton.1 member
    have visible : trim (list.headD []) ≠ [] := by
      rw [ne_eq, trim_eq_nil_iff]
      exact filled
    refine ⟨isBlankLine_eq_false_iff.2 (by rwa [trim_trim]), ?_, ?_⟩
    · exact fun stop => absurd (last_rdropWhile stop) (by decide)
    · cases list with
      | nil => exact absurd rfl visible
      | cons line rest => exact ⟨line, List.mem_cons_self, rfl⟩

theorem fencedOnce_of_plain (plain : ∀ line ∈ list, isFence line = false)
    (single : ∀ line ∈ list, '\n' ∉ line) (kept : renderExample list = some text) :
    FencedOnce list text := by
  have rows := cut_wrapped plain single kept
  have fence : ∃ row ∈ cut '\n' text.toList, isFence row = true :=
    ⟨openingFence, by simp [rows], isFence_opening⟩
  have first : ∀ row, (cut '\n' text.toList).head? = some row → isBlankLine row = false := by
    intro row start
    rw [rows, List.head?_append, Option.or_eq_some_iff] at start
    rcases start with caption | ⟨_, here⟩
    · exact (mem_captions (List.mem_of_head? caption)).1
    · cases here
      exact filled_of_isFence isFence_opening
  have last : ∀ row, (cut '\n' text.toList).getLast? = some row → isBlankLine row = false := by
    intro row stop
    rw [rows, ← List.cons_append, ← List.append_assoc, List.getLast?_concat] at stop
    cases stop
    exact filled_of_isFence isFence_closing
  have again := renderExample_rows fence first last
  refine ⟨fence, again, fun ended => ?_, ?_, fun _ => ⟨_, core_trimLines _, rows, ?_⟩⟩
  · refine relined_of_rows again last fun row member => ?_
    rw [rows] at member
    simp only [List.mem_append, List.mem_cons, List.not_mem_nil, or_false] at member
    rcases member with caption | rfl | code | rfl
    · exact (mem_captions caption).2.1
    · decide
    · exact ended row (List.mem_of_mem_tail (trimLines_subset code))
    · decide
  · rintro ⟨line, member, fenced⟩
    simp [plain line member] at fenced
  · intro row member
    rcases List.mem_append.1 member with caption | code
    · obtain ⟨_, _, line, here, rfl⟩ := mem_captions caption
      exact isFence_trim (plain line here)
    · exact plain row (List.mem_of_mem_tail (trimLines_subset code))

end Again

/-- An example comes to nothing exactly if all its lines are blank. Otherwise it comes out with a
fence, and once more through the same function it stays as it is: lines with a fence among them are
kept but for blank ones at the ends, and other lines are put below their caption between two fences,
with no fence among them, so that the first one is closed by the last line only. -/
theorem example_fenced_once (list : List (List Char)) (single : ∀ line ∈ list, '\n' ∉ line) :
    (renderExample list = none ↔ ∀ line ∈ list, isBlankLine line = true) ∧
      ∀ text, renderExample list = some text → FencedOnce list text := by
  refine ⟨renderExample_eq_none_iff, fun text kept => ?_⟩
  by_cases fence : ∃ line ∈ list, isFence line = true
  · exact fencedOnce_of_fence fence single kept
  · exact fencedOnce_of_plain (by simpa using fence) single kept

theorem captioned_code_fenced_once :
    let list := ["  Adding ".toList, [], "  add(1);".toList, " ".toList]
    renderExample list = some "Adding\n```js\n  add(1);\n```" ∧
      FencedOnce list "Adding\n```js\n  add(1);\n```" := by
  intro list
  have single : ∀ line ∈ list, '\n' ∉ line := by decide
  have rendered : renderExample list = some "Adding\n```js\n  add(1);\n```" := by decide
  exact ⟨rendered, (example_fenced_once list single).2 _ rendered⟩

end Commentary.Comment
