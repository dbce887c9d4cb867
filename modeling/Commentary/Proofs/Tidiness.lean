import Commentary.Comment.Example
import Commentary.Proofs.Trimming

/-! Texts that need no further trimming. A tidy text starts and ends with a line that is not blank,
and none of its lines ends in white space. Lines are what line feeds divide; the lines a text was
put together from are found again only because none of them has a line feed of its own. -/
namespace Commentary.Text

/-- There is something, and no white space at either end of it. -/
def Trimmed (text : String) : Prop :=
  text ≠ "" ∧ trim text.toList = text.toList

theorem nonBlank_eq_some {text : List Char} {t : String} (kept : nonBlank text = some t) :
    trim text ≠ [] ∧ t = String.ofList (trim text) := by
  unfold nonBlank at kept
  split at kept
  · cases kept
  · rename_i something
    exact ⟨fun nothing => something (by rw [nothing]; rfl), (Option.some.inj kept).symm⟩

theorem trimmed_of_nonBlank {text : List Char} {t : String} (kept : nonBlank text = some t) :
    Trimmed t := by
  obtain ⟨something, rfl⟩ := nonBlank_eq_some kept
  refine ⟨?_, by rw [String.toList_ofList, trim_trim]⟩
  intro nothing
  rw [← String.toList_ofList (l := trim text), nothing] at something
  exact something rfl

/-- A single line that does not end in white space. -/
structure Clean (line : List Char) : Prop where
  single : '\n' ∉ line
  last : ∀ c, line.getLast? = some c → isBlank c = false

theorem clean_trimEnd {text : List Char} (single : '\n' ∉ text) : Clean (trimEnd text) :=
  ⟨fun feed => single ((List.rdropWhile_prefix _ _).subset feed), fun _ => last_rdropWhile⟩

theorem clean_trim {text : List Char} (single : '\n' ∉ text) : Clean (trim text) :=
  clean_trimEnd fun feed => single ((List.dropWhile_suffix _).subset feed)

theorem Clean.trimEnd_eq {line : List Char} (clean : Clean line) : trimEnd line = line := by
  have kept : line.reverse.dropWhile isBlank = line.reverse :=
    dropWhile_of_head fun c last => clean.last c (by rwa [List.head?_reverse] at last)
  rw [trimEnd, kept, List.reverse_reverse]

section Cut

variable {separator : Char}

theorem cut_ne_nil (text : List Char) : cut separator text ≠ [] := by
  cases text with
  | nil => simp [cut]
  | cons c rest =>
    rw [cut]
    split
    · exact List.cons_ne_nil _ _
    · cases cut separator rest <;> exact List.cons_ne_nil _ _

theorem pushFirst_append (c : Char) {pieces : List (List Char)} (some_piece : pieces ≠ [])
    (more : List (List Char)) : pushFirst c (pieces ++ more) = pushFirst c pieces ++ more := by
  cases pieces with
  | nil => exact absurd rfl some_piece
  | cons first others => rfl

theorem mem_of_mem_cut {text piece : List Char} (cutOff : piece ∈ cut separator text) :
    ∀ c ∈ piece, c ∈ text ∧ c ≠ separator := by
  induction text generalizing piece with
  | nil => simp_all [cut]
  | cons first rest ih =>
    have later {piece : List Char} (cutOff : piece ∈ cut separator rest) (c : Char)
        (inside : c ∈ piece) : c ∈ first :: rest ∧ c ≠ separator :=
      (ih cutOff c inside).imp_left (List.mem_cons_of_mem first)
    rw [cut] at cutOff
    split at cutOff
    · rcases List.mem_cons.1 cutOff with rfl | behind
      · simp
      · exact later behind
    · rename_i other
      have some_piece : cut separator rest ≠ [] := cut_ne_nil rest
      obtain ⟨next, more, pieces⟩ := List.exists_cons_of_ne_nil some_piece
      rw [pieces] at cutOff later
      rcases List.mem_cons.1 cutOff with rfl | behind
      · rintro c inside
        rcases List.mem_cons.1 inside with rfl | inside
        · exact ⟨List.mem_cons_self, other⟩
        · exact later List.mem_cons_self c inside
      · exact later (List.mem_cons_of_mem _ behind)

theorem cut_append (text more : List Char) :
    cut separator (text ++ separator :: more) = cut separator text ++ cut separator more := by
  induction text with
  | nil => simp [cut]
  | cons c rest ih =>
    simp only [List.cons_append, cut, ih]
    split
    · rfl
    · exact pushFirst_append c (cut_ne_nil rest) _

/- The last piece of the one text goes on with the first piece of the other. -/
theorem cut_append_inside {text more last first : List Char} {before behind : List (List Char)}
    (cutOff : cut separator text = before ++ [last])
    (later : cut separator more = first :: behind) :
    cut separator (text ++ more) = before ++ (last ++ first) :: behind := by
  induction text generalizing before last with
  | nil =>
    obtain ⟨rfl, rfl⟩ := List.append_singleton_inj.1
      (show [] ++ [[]] = before ++ [last] from cutOff)
    exact later
  | cons c rest ih =>
    have some_piece : cut separator rest ≠ [] := cut_ne_nil rest
    obtain ⟨pieces, piece, whole⟩ := (List.eq_nil_or_concat' _).resolve_left some_piece
    rw [List.cons_append, cut, ih whole]
    rw [cut, whole] at cutOff
    split
    · rename_i same
      rw [if_pos same, ← List.cons_append] at cutOff
      obtain ⟨rfl, rfl⟩ := List.append_singleton_inj.1 cutOff
      rfl
    · rename_i other
      rw [if_neg other] at cutOff
      cases pieces with
      | nil =>
        obtain ⟨rfl, rfl⟩ := List.append_singleton_inj.1
          (show [] ++ [c :: piece] = before ++ [last] from cutOff)
        rfl
      | cons start others =>
        rw [pushFirst_append c (List.cons_ne_nil _ _)] at cutOff
        obtain ⟨rfl, rfl⟩ := List.append_singleton_inj.1 cutOff
        rfl

theorem cut_of_not_mem {text : List Char} (absent : separator ∉ text) :
    cut separator text = [text] := by
  induction text with
  | nil => rfl
  | cons c rest ih =>
    rw [List.mem_cons, not_or] at absent
    rw [cut, if_neg (Ne.symm absent.1), ih absent.2]
    rfl

theorem cut_joined {pieces : List (List Char)} (some_piece : pieces ≠ [])
    (absent : ∀ piece ∈ pieces, separator ∉ piece) :
    cut separator (joined separator pieces) = pieces := by
  induction pieces with
  | nil => exact absurd rfl some_piece
  | cons piece more ih =>
    obtain ⟨here, later⟩ := List.forall_mem_cons.1 absent
    cases more with
    | nil => exact cut_of_not_mem here
    | cons next others =>
      rw [joined_cons_cons, cut_append, cut_of_not_mem here, ih (List.cons_ne_nil _ _) later]
      rfl

theorem joined_cut (separator : Char) (text : List Char) :
    joined separator (cut separator text) = text := by
  induction text with
  | nil => rfl
  | cons c rest ih =>
    have some_piece : cut separator rest ≠ [] := cut_ne_nil rest
    obtain ⟨first, more, pieces⟩ := List.exists_cons_of_ne_nil some_piece
    rw [cut]
    split
    · rename_i same
      rw [pieces, joined_cons_cons, ← pieces, ih, same]
      rfl
    · rw [pieces] at ih ⊢
      cases more <;> simpa [pushFirst, joined] using ih

theorem cut_intercalate {texts : List String} (some_text : texts ≠ []) :
    cut '\n' ("\n".intercalate texts).toList = texts.flatMap fun t => cut '\n' t.toList := by
  induction texts with
  | nil => exact absurd rfl some_text
  | cons text more ih =>
    cases more with
    | nil => simp
    | cons next others =>
      have feed : (text ++ "\n" ++ "\n".intercalate (next :: others)).toList =
          text.toList ++ '\n' :: ("\n".intercalate (next :: others)).toList := by simp
      rw [String.intercalate_cons_cons, feed, cut_append, ih (List.cons_ne_nil _ _)]
      rfl

end Cut

/-- Lines without blank ones at either end, and without white space at their ends. -/
structure TidyLines (lines : List (List Char)) : Prop where
  first : ∃ line, lines.head? = some line ∧ isBlankLine line = false
  last : ∃ line, lines.getLast? = some line ∧ isBlankLine line = false
  ends : ∀ line ∈ lines, ∀ c, line.getLast? = some c → isBlank c = false

def Tidy (text : String) : Prop :=
  TidyLines (cut '\n' text.toList)

theorem TidyLines.append {lines more : List (List Char)} (before : TidyLines lines)
    (behind : TidyLines more) : TidyLines (lines ++ more) := by
  obtain ⟨first, start, filled⟩ := before.first
  obtain ⟨last, stop, kept⟩ := behind.last
  refine ⟨⟨first, ?_, filled⟩, ⟨last, ?_, kept⟩, ?_⟩
  · rw [List.head?_append, start]
    rfl
  · rw [List.getLast?_append, stop]
    rfl
  · intro line member
    rcases List.mem_append.1 member with here | there
    · exact before.ends line here
    · exact behind.ends line there

namespace Tidy

theorem of_clean {line : List Char} (clean : Clean line) (filled : isBlankLine line = false) :
    Tidy (String.ofList line) := by
  have whole : cut '\n' (String.ofList line).toList = [line] := by
    rw [String.toList_ofList]
    exact cut_of_not_mem clean.single
  rw [Tidy, whole]
  refine ⟨⟨line, rfl, filled⟩, ⟨line, rfl, filled⟩, ?_⟩
  simpa using clean.last

theorem of_nonBlank {text : List Char} (single : '\n' ∉ text) {t : String}
    (kept : nonBlank text = some t) : Tidy t := by
  obtain ⟨something, rfl⟩ := nonBlank_eq_some kept
  have start : isBlank ((trim text).head something) = false :=
    head_rdropWhile_dropWhile (List.head?_eq_some_head something)
  exact of_clean (clean_trim single)
    (List.all_eq_false.2 ⟨_, List.head_mem something, by simp [start]⟩)

theorem append {text more : String} (before : Tidy text) (behind : Tidy more) :
    Tidy (text ++ "\n" ++ more) := by
  have lines : cut '\n' (text ++ "\n" ++ more).toList =
      cut '\n' text.toList ++ cut '\n' more.toList := by
    rw [← cut_append]
    simp
  rw [Tidy, lines]
  exact TidyLines.append before behind

theorem intercalate {texts : List String} (some_text : texts ≠ []) (tidy : ∀ t ∈ texts, Tidy t) :
    Tidy ("\n".intercalate texts) := by
  induction texts with
  | nil => exact absurd rfl some_text
  | cons text more ih =>
    obtain ⟨here, later⟩ := List.forall_mem_cons.1 tidy
    cases more with
    | nil => simpa using here
    | cons next others =>
      rw [String.intercalate_cons_cons]
      exact here.append (ih (List.cons_ne_nil _ _) later)

end Tidy

theorem not_mem_lines (text : List Char) : ∀ line ∈ lines text, '\n' ∉ line := by
  fun_induction lines text with
  | case1 => simp
  | case2 rest ih => simpa using ih
  | case3 rest ih => simpa using ih
  | case4 c rest notFeed notReturn ih =>
    -- A carriage return that no line feed follows is text like any other character.
    have plain : c ≠ '\n' := fun feed => notFeed feed
    cases cutRest : lines rest with
    | nil => simpa [pushFirst] using plain.symm
    | cons first more =>
      rw [cutRest] at ih
      obtain ⟨here, later⟩ := List.forall_mem_cons.1 ih
      refine List.forall_mem_cons.2 ⟨?_, later⟩
      rw [List.mem_cons, not_or]
      exact ⟨plain.symm, here⟩

theorem lines_cons {c : Char} {rest : List Char} (notFeed : c ≠ '\n')
    (notReturn : c = '\r' → rest.head? ≠ some '\n') :
    lines (c :: rest) = pushFirst c (lines rest) := by
  rw [lines]
  · exact notFeed
  · rintro more rfl rfl
    exact notReturn rfl rfl

theorem lines_append {row : List Char} (single : '\n' ∉ row) (ended : row.getLast? ≠ some '\r')
    (rest : List Char) : lines (row ++ '\n' :: rest) = row :: lines rest := by
  induction row with
  | nil => rfl
  | cons c row ih =>
    rw [List.mem_cons, not_or] at single
    have later : row.getLast? ≠ some '\r' := by
      intro last
      simp [List.getLast?_cons, last] at ended
    have plain : c = '\r' → (row ++ '\n' :: rest).head? ≠ some '\n' := by
      rintro rfl feed
      cases row with
      | nil => simp at ended
      | cons next row => exact single.2 (List.mem_of_head? feed)
    rw [List.cons_append, lines_cons (Ne.symm single.1) plain, ih single.2 later]
    rfl

theorem lines_of_single {row : List Char} (single : '\n' ∉ row) (something : row ≠ []) :
    lines row = [row] := by
  induction row with
  | nil => exact absurd rfl something
  | cons c row ih =>
    rw [List.mem_cons, not_or] at single
    have plain : c = '\r' → row.head? ≠ some '\n' :=
      fun _ feed => single.2 (List.mem_of_head? feed)
    rw [lines_cons (Ne.symm single.1) plain]
    cases row with
    | nil => rfl
    | cons next row => rw [ih single.2 (List.cons_ne_nil _ _)]; rfl

/- A carriage return at the end of a row would be taken for a part of the line end, and an empty
last row for none at all. -/
theorem lines_unlines {rows : List (List Char)} (single : ∀ row ∈ rows, '\n' ∉ row)
    (ended : ∀ row ∈ rows, row.getLast? ≠ some '\r') (last : rows.getLast? ≠ some []) :
    lines (unlines rows) = rows := by
  induction rows with
  | nil => rfl
  | cons row more ih =>
    obtain ⟨here, later⟩ := List.forall_mem_cons.1 single
    obtain ⟨stops, behind⟩ := List.forall_mem_cons.1 ended
    cases more with
    | nil =>
      have something : row ≠ [] := by simpa using last
      exact lines_of_single here something
    | cons next others =>
      rw [List.getLast?_cons_cons] at last
      rw [unlines, joined_cons_cons, lines_append here stops]
      exact congrArg (row :: ·) (ih later behind last)

end Commentary.Text

namespace Commentary.Comment

open Text

theorem undecorate_suffix (line : List Char) : undecorate line <:+ line := by
  have start : trimStart line <:+ line := List.dropWhile_suffix _
  unfold undecorate
  split
  · rename_i rest shape
    exact ((List.suffix_cons _ _).trans (List.suffix_cons _ _)).trans (shape ▸ start)
  · rename_i rest _ shape
    exact (List.suffix_cons _ _).trans (shape ▸ start)
  · split
    · split
      · exact List.suffix_cons _ _
      · exact List.suffix_rfl
    · exact List.suffix_rfl

theorem clean_logicalLines (body : List Char) : ∀ line ∈ logicalLines body, Clean line := by
  intro line member
  obtain ⟨raw, here, rfl⟩ := List.mem_map.1 member
  refine clean_trimEnd fun feed => not_mem_lines _ raw here ?_
  exact (undecorate_suffix raw).subset feed

/-- What is left of a list of lines without the blank ones at its ends. -/
structure Core (list kept : List (List Char)) : Prop where
  whole : ∃ before behind, list = before ++ (kept ++ behind) ∧
    (∀ line ∈ before, isBlankLine line = true) ∧ ∀ line ∈ behind, isBlankLine line = true
  first : ∀ line, kept.head? = some line → isBlankLine line = false
  last : ∀ line, kept.getLast? = some line → isBlankLine line = false

theorem core_trimLines (list : List (List Char)) : Core list (trimLines list) := by
  refine ⟨⟨list.takeWhile isBlankLine, (list.dropWhile isBlankLine).rtakeWhile isBlankLine, ?_,
    fun _ => List.mem_takeWhile_imp, fun _ => List.mem_rtakeWhile_imp⟩,
    fun _ => head_rdropWhile_dropWhile, fun _ => last_rdropWhile⟩
  have tail : trimLines list ++ (list.dropWhile isBlankLine).rtakeWhile isBlankLine =
      list.dropWhile isBlankLine := List.rdropWhile_append_rtakeWhile
  rw [tail, List.takeWhile_append_dropWhile]

section Lines

variable {list : List (List Char)}

theorem trimLines_subset : trimLines list ⊆ list := by
  obtain ⟨before, behind, whole, _⟩ := (core_trimLines list).whole
  intro line member
  rw [whole]
  exact List.mem_append_right _ (List.mem_append_left _ member)

theorem mem_trimLines {line : List Char} (member : line ∈ list)
    (filled : isBlankLine line = false) : line ∈ trimLines list := by
  obtain ⟨before, behind, whole, lead, tail⟩ := (core_trimLines list).whole
  rw [whole, List.mem_append, List.mem_append] at member
  rcases member with here | here | here
  · simp [lead line here] at filled
  · exact here
  · simp [tail line here] at filled

theorem trimLines_eq_nil_iff : trimLines list = [] ↔ ∀ line ∈ list, isBlankLine line = true := by
  constructor
  · intro nothing line member
    by_contra filled
    have kept := mem_trimLines member (by simpa using filled)
    rw [nothing] at kept
    cases kept
  · intro blank
    by_contra something
    have first := List.head?_eq_some_head something
    have filled := (core_trimLines list).first _ first
    rw [blank _ (trimLines_subset (List.mem_of_head? first))] at filled
    cases filled

theorem trimLines_of_ends (first : ∀ line, list.head? = some line → isBlankLine line = false)
    (last : ∀ line, list.getLast? = some line → isBlankLine line = false) :
    trimLines list = list := by
  have stop : list.reverse.dropWhile isBlankLine = list.reverse :=
    dropWhile_of_head fun line here => last line (by rwa [List.head?_reverse] at here)
  rw [trimLines, dropWhile_of_head first, stop, List.reverse_reverse]

theorem content_eq_none_iff : content list = none ↔ ∀ line ∈ list, isBlankLine line = true := by
  rw [← trimLines_eq_nil_iff, content]
  cases trimLines list <;> simp

theorem trimLines_ne_nil {text : String} (kept : content list = some text) :
    trimLines list ≠ [] := by
  rw [ne_eq, trimLines_eq_nil_iff, ← content_eq_none_iff, kept]
  simp

theorem cut_content {text : String} (single : ∀ line ∈ list, '\n' ∉ line)
    (kept : content list = some text) : cut '\n' text.toList = trimLines list := by
  have something := trimLines_ne_nil kept
  rw [content, if_neg (by simpa using something)] at kept
  cases kept
  rw [String.toList_ofList]
  exact cut_joined something fun line member => single line (trimLines_subset member)

end Lines

theorem tidy_content {list : List (List Char)} (clean : ∀ line ∈ list, Clean line) {t : String}
    (kept : content list = some t) : Tidy t := by
  have core := core_trimLines list
  have some_line := trimLines_ne_nil kept
  rw [Tidy, cut_content (fun line member => (clean line member).single) kept]
  refine ⟨?_, ?_, fun line member => (clean line (trimLines_subset member)).last⟩
  · have start := List.head?_eq_some_head some_line
    exact ⟨_, start, core.first _ start⟩
  · have stop := List.getLast?_eq_some_getLast some_line
    exact ⟨_, stop, core.last _ stop⟩

/- Without a fence of its own an example is put together from up to four texts, each of them
tidy. -/
theorem tidy_renderExample {list : List (List Char)} (clean : ∀ line ∈ list, Clean line)
    {t : String} (kept : renderExample list = some t) : Tidy t := by
  unfold renderExample at kept
  split at kept
  · exact tidy_content clean kept
  · have caption : ∀ t ∈ (nonBlank (list.headD [])).toList, Tidy t := by
      intro t member
      refine Tidy.of_nonBlank ?_ (Option.mem_toList.1 member)
      cases list with
      | nil => exact List.not_mem_nil
      | cons line rest => exact (clean line List.mem_cons_self).single
    have code : ∀ t ∈ (content (list.drop 1)).toList, Tidy t := by
      intro t member
      have rest : ∀ line ∈ list.drop 1, Clean line := fun line here =>
        clean line (List.mem_of_mem_drop here)
      exact tidy_content rest (Option.mem_toList.1 member)
    have opening : Tidy "```js" :=
      Tidy.of_nonBlank (by decide) (show nonBlank "```js".toList = some "```js" by decide)
    have closing : Tidy "```" :=
      Tidy.of_nonBlank (by decide) (show nonBlank "```".toList = some "```" by decide)
    dsimp only at kept
    split at kept
    · cases kept
    · cases kept
      refine Tidy.intercalate (by simp) ?_
      intro t member
      simp only [List.mem_append, List.mem_singleton] at member
      rcases member with ((here | rfl) | here) | rfl
      · exact caption t here
      · exact opening
      · exact code t here
      · exact closing

end Commentary.Comment
