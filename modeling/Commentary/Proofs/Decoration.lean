import Commentary.Proofs.Tidiness

/-! Decorated comments. White space is cut off a comment at four places: at the end of the body, in
front of the star of a row, behind it, and at the end of the row. None of them reaches into a line,
because a star stands in front of it and a line has no white space at its own end. -/
namespace Commentary.Comment

open Text

/-- A line as it stands in a comment: indented, behind a star and one space. -/
def starred (indent line : List Char) : List Char :=
  indent ++ '*' :: ' ' :: line

/- The first row is what stands behind the opening of the comment, the last row is what stands
before its end. -/
def decorated (indent : List Char) (list : List (List Char)) : List Char :=
  unlines ([] :: (list.map (starred indent) ++ [indent]))

section Row

variable {indent line : List Char}

theorem single_starred (spaces : ∀ c ∈ indent, c = ' ' ∨ c = '\t') (single : '\n' ∉ line) :
    '\n' ∉ starred indent line := by
  have inside : '\n' ∉ indent := fun feed => by simpa using spaces _ feed
  simp [starred, inside, single]

theorem last_starred (indent : List Char) (clean : Clean line) :
    (starred indent line).getLast? ≠ some '\r' := by
  intro final
  cases last : line.getLast? with
  | none => simp [starred, List.getLast?_append, List.getLast?_cons, last] at final
  | some c =>
    have visible := clean.last c last
    obtain rfl : c = '\r' := by
      simpa [starred, List.getLast?_append, List.getLast?_cons, last] using final
    exact absurd visible (by decide)

theorem trimEnd_starred_ne_nil (indent line : List Char) : trimEnd (starred indent line) ≠ [] := by
  rw [ne_eq, trimEnd_eq_nil_iff, isBlankLine, List.all_eq_true]
  intro blank
  exact absurd (blank '*' (by simp [starred])) (by decide)

variable (blank : isBlankLine indent = true)
include blank

theorem trimStart_indented (rest : List Char) :
    trimStart (indent ++ '*' :: rest) = '*' :: rest := by
  have star : isBlank '*' = false := by decide
  rw [trimStart, List.dropWhile_append_of_pos (List.all_eq_true.1 blank),
    List.dropWhile_cons_of_neg (by simp [star])]

theorem undecorate_starred (line : List Char) : undecorate (starred indent line) = line := by
  unfold undecorate starred
  rw [trimStart_indented blank]
  rfl

/- With nothing behind it the space behind the star is at the end of the row, so the end of the body
may have lost it. -/
theorem undecorate_trimEnd_starred (ended : trimEnd line = line) :
    undecorate (trimEnd (starred indent line)) = line := by
  cases line with
  | nil =>
    have cutOff : trimEnd (starred indent []) = indent ++ ['*'] :=
      trimEnd_append_of_ne (show trimEnd ['*', ' '] ≠ [] by decide) indent
    rw [cutOff]
    unfold undecorate
    rw [trimStart_indented blank]
    rfl
  | cons c rest =>
    have kept : trimEnd (starred indent (c :: rest)) = starred indent (c :: rest) := by
      rw [starred, List.append_cons, List.append_cons]
      exact trimEnd_append (List.cons_ne_nil _ _) ended _
    rw [kept, undecorate_starred blank]

theorem isBlankLine_feed : isBlankLine ('\n' :: indent) = true := by
  rw [isBlankLine, List.all_cons, ← isBlankLine, blank]
  decide

end Row

section Body

variable {indent last : List Char} {front : List (List Char)}

theorem trimEnd_unlines (something : trimEnd last ≠ []) (rows : List (List Char)) :
    trimEnd (unlines (rows ++ [last])) = unlines (rows ++ [trimEnd last]) := by
  cases rows with
  | nil => rfl
  | cons row more =>
    have some_row := List.cons_ne_nil row more
    rw [unlines, unlines, joined_concat some_row, joined_concat some_row, List.append_cons,
      trimEnd_append_of_ne something, ← List.append_cons]

/- What the end of the body loses is the row before the end of the comment, and at most the space
behind the last star. -/
theorem trimEnd_decorated (blank : isBlankLine indent = true) :
    trimEnd (decorated indent (front ++ [last])) =
      unlines ([] :: front.map (starred indent) ++ [trimEnd (starred indent last)]) := by
  have rows : decorated indent (front ++ [last]) =
      unlines ([] :: front.map (starred indent) ++ [starred indent last]) ++ '\n' :: indent := by
    rw [unlines, ← joined_concat (by simp)]
    simp [decorated, unlines]
  rw [rows, trimEnd_append_blank (isBlankLine_feed blank)]
  exact trimEnd_unlines (trimEnd_starred_ne_nil indent last) _

theorem lines_decorated (spaces : ∀ c ∈ indent, c = ' ' ∨ c = '\t')
    (blank : isBlankLine indent = true) (clean : ∀ line ∈ front, Clean line) (final : Clean last) :
    lines (trimEnd (decorated indent (front ++ [last]))) =
      [] :: front.map (starred indent) ++ [trimEnd (starred indent last)] := by
  rw [trimEnd_decorated blank]
  refine lines_unlines ?single ?ended ?filled
  case single =>
    simp only [List.forall_mem_append, List.forall_mem_cons, List.forall_mem_map]
    exact ⟨⟨by simp, fun line member => single_starred spaces (clean line member).single⟩,
      (clean_trimEnd (single_starred spaces final.single)).single, by simp⟩
  case ended =>
    simp only [List.forall_mem_append, List.forall_mem_cons, List.forall_mem_map]
    exact ⟨⟨by simp, fun line member => last_starred indent (clean line member)⟩,
      fun stop => absurd (last_rdropWhile stop) (by decide), by simp⟩
  case filled =>
    rw [List.getLast?_concat]
    simpa using trimEnd_starred_ne_nil indent last

end Body

/-- A comment whose lines are indented and starred reads as those lines, behind the empty rest of
its first row. Stars and white space that start a line belong to the line, and blank lines count,
also at the end. -/
theorem logicalLines_decorated (indent : List Char) (list : List (List Char))
    (spaces : ∀ c ∈ indent, c = ' ' ∨ c = '\t') (clean : ∀ line ∈ list, Clean line) :
    logicalLines (decorated indent list) = if list = [] then [] else [] :: list := by
  have blank : isBlankLine indent = true := by
    refine List.all_eq_true.2 fun c member => ?_
    rcases spaces c member with rfl | rfl <;> decide
  -- The last row is apart: it is the one that trimming the body may shorten.
  rcases List.eq_nil_or_concat' list with rfl | ⟨front, last, rfl⟩
  · have nothing : trimEnd (decorated indent []) = [] :=
      trimEnd_eq_nil_iff.2 (isBlankLine_feed blank)
    rw [logicalLines, nothing]
    rfl
  · obtain ⟨before, final⟩ := List.forall_mem_append.1 clean
    have final := final last List.mem_cons_self
    have restored : (front.map (starred indent)).map (fun row => trimEnd (undecorate row)) =
        front := by
      rw [List.map_map]
      refine (List.map_congr_left fun line member => ?_).trans (List.map_id front)
      show trimEnd (undecorate (starred indent line)) = line
      rw [undecorate_starred blank, (before line member).trimEnd_eq]
    rw [logicalLines, lines_decorated spaces blank before final, List.map_append, List.map_cons,
      restored, List.map_singleton, undecorate_trimEnd_starred blank final.trimEnd_eq,
      final.trimEnd_eq, if_neg (by simp)]
    rfl

theorem stars_and_blank_lines_survive :
    logicalLines "\n\t * ** a\n\t * \n\t *   @b\n\t * \n\t ".toList =
      [[], "** a".toList, [], "  @b".toList, []] := by
  have clean : ∀ line ∈ ["** a".toList, [], "  @b".toList, []], Clean line := by
    have visible (line : List Char) (single : '\n' ∉ line) (kept : trimEnd line = line) :
        Clean line := kept ▸ clean_trimEnd single
    simp only [List.forall_mem_cons]
    exact ⟨visible _ (by decide) (by decide), visible _ (by decide) (by decide),
      visible _ (by decide) (by decide), visible _ (by decide) (by decide), by simp⟩
  exact logicalLines_decorated ['\t', ' '] ["** a".toList, [], "  @b".toList, []] (by simp) clean

end Commentary.Comment
