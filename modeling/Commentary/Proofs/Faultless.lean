import Commentary.Proofs.Guarded
import Commentary.Proofs.Headers
import Commentary.Proofs.WellFormed

/-! The reader by offsets never comes to a fault. Function by function it gives what the reader by
characters gives: each offset is the size of a front of the text, so it stands between two
characters, and each counter is bounded by the brackets or the characters still to come. -/
namespace Commentary.Comment.Guarded

open Text

section Close

variable {opening closing c : Char} (distinct : opening ≠ closing)
include distinct

/- The counter stands at one more than the number of brackets opened since the first one, so it is
never zero when a bracket is closed. -/
theorem scanClose_cons (depth offset : Nat) (rest : List (Nat × Char)) :
    scanClose opening closing (depth + 1) ((offset, c) :: rest) =
      if c = closing ∧ depth = 0 then .ok (some offset)
      else scanClose opening closing (level opening closing depth c + 1) rest := by
  rw [scanClose.eq_def]
  by_cases opens : c = opening
  · simp [level, opens, distinct]
  · by_cases closes : c = closing
    · cases depth <;> simp [level, closes, distinct.symm]
    · simp [level, opens, closes]

theorem scanClose_eq (depth offset : Nat) (text : List Char) :
    scanClose opening closing (depth + 1) (charIndices offset text) =
      pure ((spanBalanced opening closing depth text).map fun p => offset + byteSize p.1) := by
  induction text generalizing depth offset with
  | nil => rfl
  | cons c rest ih =>
    rw [charIndices, scanClose_cons distinct, spanBalanced_cons distinct]
    split
    · rfl
    · rw [ih, Option.map_map]
      congr 2
      funext p
      exact Nat.add_assoc _ _ _

theorem closingOffset_eq (text : List Char) :
    closingOffset opening closing (opening :: text) =
      pure ((spanBalanced opening closing 0 text).map fun p => byteSize (opening :: p.1)) := by
  rw [closingOffset, charIndices, scanClose, if_pos rfl, scanClose_eq distinct, Nat.zero_add]
  rfl

end Close

-- Started anywhere but at an opening bracket the scan could fail.
example : closingOffset '{' '}' ['}'] = .error .underflow := rfl

section Union

theorem fit_depth {depth : Int} {n : Nat} (small : depth.natAbs + (n + 1) < 0x80000000)
    (previous c : Char) :
    fit (depth + depthChange previous c) = pure (depth + depthChange previous c) ∧
      (depth + depthChange previous c).natAbs + n < 0x80000000 := by
  have bounds : -1 ≤ depthChange previous c ∧ depthChange previous c ≤ 1 := by
    unfold depthChange
    split_ifs <;> decide
  refine ⟨if_pos ?_, ?_⟩ <;> omega

theorem foldr_pushFirst (current first : List Char) (more : List (List Char)) :
    current.foldr pushFirst (first :: more) = (current ++ first) :: more := by
  induction current with
  | nil => rfl
  | cons c rest ih =>
    rw [List.foldr_cons, ih]
    rfl

/- What is read before the current piece is `front`. Every character left can change the depth by
one, so it cannot leave its range before the text is at its end. -/
theorem scanUnion_eq {type rest : List Char} {depth : Int} (front current : List Char)
    (previous : Char) (whole : type = front ++ current ++ rest)
    (small : depth.natAbs + rest.length < 0x80000000) :
    scanUnion type depth (byteSize front) previous
        (charIndices (byteSize (front ++ current)) rest) =
      pure (current.foldr pushFirst (cutUnion depth previous rest)) := by
  induction rest generalizing front current depth previous with
  | nil =>
    rw [charIndices, scanUnion, whole, List.append_assoc, sliceFrom_append, pure_bind, cutUnion,
      foldr_pushFirst]
  | cons c rest ih =>
    rw [charIndices, scanUnion, cutUnion]
    rw [List.length_cons] at small
    split
    · rename_i bar
      obtain ⟨rfl, rfl⟩ := bar
      have start : byteSize (front ++ current) + 1 = byteSize (front ++ current ++ ['|']) := by
        rw [byteSize_append (front ++ current)]
        rfl
      have later := ih (front ++ current ++ ['|']) [] '|' (by rw [whole]; simp)
        (show (0 : Int).natAbs + rest.length < 0x80000000 by omega)
      rw [List.append_nil, List.foldr_nil] at later
      have size : '|'.utf8Size = 1 := by decide
      have piece : slice (byteSize front) (byteSize (front ++ current)) type = pure current := by
        rw [whole]
        exact slice_append front current ('|' :: rest)
      rw [piece, pure_bind, size, start, later, pure_bind, foldr_pushFirst, List.append_nil]
    · obtain ⟨fits, left⟩ := fit_depth small previous c
      have later := ih front (current ++ [c]) c (by rw [whole]; simp) left
      rw [← List.append_assoc, byteSize_append (front ++ current), List.foldr_append] at later
      rw [fits, pure_bind]
      exact later

theorem splitUnion_eq {type : List Char} (small : type.length < 0x80000000) :
    splitUnion type = pure (Comment.splitUnion type) := by
  have scanned : scanUnion type 0 0 ' ' (charIndices 0 type) = pure (cutUnion 0 ' ' type) :=
    scanUnion_eq [] [] ' ' rfl (by simpa using small)
  rw [splitUnion, scanned, pure_bind]
  rfl

end Union

section Content

variable {list before kept behind : List (List Char)}

theorem firstFilled?_of_blank (blank : ∀ line ∈ list, isBlankLine line = true) :
    firstFilled? list = none := by
  simpa [firstFilled?] using blank

theorem firstFilled?_append (blank : ∀ line ∈ before, isBlankLine line = true) {line : List Char}
    (first : kept.head? = some line) (filled : isBlankLine line = false) :
    firstFilled? (before ++ kept) = some before.length := by
  obtain ⟨rest, rfl⟩ := List.head?_eq_some_iff.1 first
  have none_before := firstFilled?_of_blank blank
  rw [firstFilled?] at none_before ⊢
  simp [List.findIdx?_append, List.findIdx?_cons, none_before, filled]

theorem range_append (something : kept ≠ []) :
    range before.length (before.length + kept.length - 1) (before ++ (kept ++ behind)) =
      pure kept := by
  have positive := List.length_pos_iff.2 something
  have stop : before.length + kept.length - 1 + 1 = (before ++ kept).length := by
    rw [List.length_append]
    omega
  rw [range, if_neg (by omega), if_neg (by simp only [List.length_append]; omega), stop,
    ← List.append_assoc, List.take_left, List.drop_left]
  rfl

theorem content_core (core : Core list kept) (something : kept ≠ []) :
    content list = pure (some (String.ofList (unlines kept))) := by
  obtain ⟨⟨before, behind, rfl, lead, tail⟩, first, last⟩ := core
  have head := List.head?_eq_some_head something
  have final := List.getLast?_eq_some_getLast something
  have positive := List.length_pos_iff.2 something
  have start : firstFilled? (before ++ (kept ++ behind)) = some before.length :=
    firstFilled?_append lead (by rw [List.head?_append, head]; rfl) (first _ head)
  have stop : lastFilled? (before ++ (kept ++ behind)) =
      some (before.length + kept.length - 1) := by
    have backwards : firstFilled? (before ++ (kept ++ behind)).reverse =
        some behind.reverse.length := by
      rw [List.reverse_append, List.reverse_append, List.append_assoc]
      refine firstFilled?_append (by simpa using tail) ?_ (last _ final)
      rw [List.head?_append, List.head?_reverse, final]
      rfl
    rw [lastFilled?, backwards, Option.map_some, List.length_reverse, List.length_append,
      List.length_append]
    exact congrArg some (by omega)
  rw [content, start, stop]
  dsimp only
  rw [range_append something, pure_bind]

theorem content_eq (list : List (List Char)) : content list = pure (Comment.content list) := by
  by_cases nothing : trimLines list = []
  · have blank := firstFilled?_of_blank (trimLines_eq_nil_iff.1 nothing)
    simp only [content, blank, Comment.content, nothing]
    rfl
  · rw [content_core (core_trimLines list) nothing, Comment.content,
      if_neg (by simpa using nothing)]

theorem renderExample_eq (list : List (List Char)) :
    renderExample list = pure (Comment.renderExample list) := by
  unfold renderExample Comment.renderExample
  split
  · exact content_eq list
  · rw [content_eq, pure_bind]
    dsimp only
    split <;> rfl

end Content

theorem splitTag_eq (line : List Char) : splitTag line = pure (Comment.splitTag line) := by
  by_cases starts : (trimStart line).head? = some '@'
  · obtain ⟨rest, shape⟩ := List.head?_eq_some_iff.1 starts
    have found := splitAt_append (rest.takeWhile isTagChar) (rest.dropWhile isTagChar)
    rw [List.takeWhile_append_dropWhile] at found
    simp only [splitTag, Comment.splitTag, shape, find?_getD, Bool.not_not]
    by_cases nothing : rest.takeWhile isTagChar = []
    · rw [if_pos (byteSize_eq_zero_iff.2 nothing), nothing]
      rfl
    · rw [if_neg (mt byteSize_eq_zero_iff.1 nothing), found, pure_bind]
      dsimp only
      cases (rest.dropWhile isTagChar).isEmpty <;>
        cases (rest.dropWhile isTagChar).head?.any isBlank <;> simp [nothing]
  · have other : ∀ rest, trimStart line ≠ '@' :: rest :=
      fun rest shape => starts (List.head?_eq_some_iff.2 ⟨rest, shape⟩)
    have untagged : Comment.splitTag line = none := by
      rw [Comment.splitTag]
      split
      · exact absurd ‹_› (other _)
      · rfl
    rw [untagged, splitTag]
    split
    · exact absurd ‹_› (other _)
    · rfl

section Header

variable {text : List Char}

/- The slices inside and behind a pair of brackets. Both brackets take one byte. -/
theorem slices_of_span {opening closing : Char} (distinct : opening ≠ closing)
    (sizes : opening.utf8Size = 1 ∧ closing.utf8Size = 1) {tail inner rest : List Char}
    (found : spanBalanced opening closing 0 tail = some (inner, rest)) :
    slice 1 (byteSize (opening :: inner)) (opening :: tail) = pure inner ∧
      sliceFrom (byteSize (opening :: inner) + 1) (opening :: tail) = pure rest := by
  obtain ⟨rfl, _⟩ := spanBalanced_eq_some distinct found
  have first : byteSize [opening] = 1 := by simp [byteSize, sizes.1]
  have behind : byteSize (opening :: inner ++ [closing]) = byteSize (opening :: inner) + 1 := by
    rw [byteSize_append]
    simp [byteSize, sizes.2]
  constructor
  · rw [← first]
    exact slice_append [opening] inner (closing :: rest)
  · show sliceFrom _ (opening :: inner ++ ([closing] ++ rest)) = _
    rw [← behind, ← List.append_assoc, sliceFrom_append]

theorem readTypes_eq (small : text.length < 0x80000000) :
    readTypes text = pure (Comment.readTypes text) := by
  unfold readTypes
  split
  · rename_i starts
    obtain ⟨tail, rfl⟩ := List.head?_eq_some_iff.1 starts
    rw [closingOffset_eq (by decide), pure_bind, Comment.readTypes]
    cases found : spanBalanced '{' '}' 0 tail with
    | none => rfl
    | some pair =>
      obtain ⟨inner, rest⟩ := pair
      obtain ⟨inside, behind⟩ := slices_of_span (by decide) (by decide) found
      dsimp only [Option.map_some]
      rw [inside, pure_bind]
      cases blank : isBlankLine inner with
      | true =>
        rw [trim_eq_nil_iff.2 blank]
        rfl
      | false =>
        have filled : ¬ (trim inner).isEmpty = true := by
          simpa using isBlankLine_eq_false_iff.1 blank
        have short : (trim inner).length < 0x80000000 := by
          have whole := (spanBalanced_eq_some (by decide) found).1
          have within : (trim inner).Sublist inner :=
            (List.rdropWhile_prefix _ _).sublist.trans (List.dropWhile_sublist _)
          have shorter := within.length_le
          rw [whole, List.length_cons, List.length_append] at small
          omega
        rw [if_neg filled, splitUnion_eq short, behind]
        rfl
  · rename_i other
    rw [readTypes_of_other other]
    rfl

theorem firstWord_append_drop (text : List Char) :
    firstWord text ++ text.drop (firstWord text).length = text := by
  obtain ⟨rest, whole⟩ : firstWord text <+: text := List.takeWhile_prefix _
  generalize firstWord text = word at whole ⊢
  rw [← whole, List.drop_left]

theorem readName_eq (text : List Char) : readName text = pure (Comment.readName text) := by
  unfold readName
  split
  · rename_i starts
    obtain ⟨tail, rfl⟩ := List.head?_eq_some_iff.1 starts
    rw [closingOffset_eq (by decide), pure_bind, Comment.readName]
    cases found : spanBalanced '[' ']' 0 tail with
    | none => rfl
    | some pair =>
      obtain ⟨inner, rest⟩ := pair
      obtain ⟨inside, behind⟩ := slices_of_span (by decide) (by decide) found
      dsimp only [Option.map_some]
      rw [inside, pure_bind]
      cases readOptional inner with
      | none => rfl
      | some item =>
        dsimp only
        rw [behind]
        rfl
  · rename_i other
    have word := sliceTo_append (firstWord text) (text.drop (firstWord text).length)
    have behindWord := sliceFrom_append (firstWord text) (text.drop (firstWord text).length)
    rw [firstWord_append_drop] at word behindWord
    rw [readName_of_other other, find?_getD]
    change (sliceTo (byteSize (firstWord text)) text >>= fun word => _) = _
    rw [word, pure_bind]
    change (if _ then sliceFrom (byteSize (firstWord text)) text >>= fun rest => _ else _) = _
    rw [behindWord, pure_bind]
    by_cases name : firstWord text ≠ [] ∧ (firstWord text).all isNameChar = true
    · rw [if_pos name, if_pos (by simpa using name)]
      rfl
    · rw [if_neg name, if_neg (by simpa using name)]

theorem readHeader_eq {payload : List Char} (small : payload.length < 0x80000000) (tag : String)
    (named : Bool) :
    readHeader tag payload named = pure (Comment.readHeader tag payload named) := by
  have short : (trimStart payload).length < 0x80000000 :=
    Nat.lt_of_le_of_lt (List.dropWhile_sublist _).length_le small
  have header : readHeader? payload named = pure (Comment.readHeader? payload named) := by
    rw [readHeader?, readTypes_eq short, pure_bind, Comment.readHeader?]
    cases Comment.readTypes (trimStart payload) with
    | none => rfl
    | some pair =>
      cases named with
      | false => rfl
      | true =>
        dsimp only
        rw [readName_eq]
        rfl
  rw [readHeader, header, pure_bind, Comment.readHeader]
  cases Comment.readHeader? payload named <;> rfl

end Header

section Body

theorem close_eq (doc : Doc) (b : Doc.Block) : close doc b = pure (doc.close b) := by
  cases b with
  | ignored => rfl
  | sample lines =>
    rw [close, renderExample_eq, pure_bind]
    rfl
  | description lines =>
    rw [close, content_eq, pure_bind]
    rfl
  | parameter item lines =>
    rw [close, content_eq, pure_bind]
    rfl
  | result item lines =>
    rw [close, content_eq, pure_bind]
    rfl

theorem flush_eq (doc : Doc) (block : Option Doc.Block) :
    flush doc block = pure (doc.flush block) := by
  cases block with
  | none => rfl
  | some b => exact close_eq doc b

theorem openTag_eq {payload : List Char} (small : payload.length < 0x80000000) (doc : Doc)
    (word : String) : openTag doc word payload = pure (doc.openTag word payload) := by
  unfold openTag Doc.openTag
  cases Tag.ofWord word with
  | parameter =>
    dsimp only
    rw [readHeader_eq small, pure_bind]
  | result =>
    dsimp only
    rw [readHeader_eq small, pure_bind]
  | _ => rfl

theorem step_eq {line : List Char} (small : line.length < 0x80000000)
    (state : Doc × Option Doc.Block) : step state line = pure (Doc.step state line) := by
  rw [step, splitTag_eq, pure_bind, Doc.step]
  cases tagged : Comment.splitTag line with
  | none => rfl
  | some tag =>
    obtain ⟨word, payload⟩ := tag
    have short : payload.length < 0x80000000 :=
      Nat.lt_of_le_of_lt (splitTag_suffix tagged).length_le small
    dsimp only
    rw [flush_eq, pure_bind, openTag_eq short]

theorem readLines_eq {list : List (List Char)} (small : ∀ line ∈ list, line.length < 0x80000000)
    (state : Doc × Option Doc.Block) :
    readLines state list =
      pure ((list.foldlM Doc.step state).map fun final => final.1.flush final.2) := by
  induction list generalizing state with
  | nil =>
    rw [readLines, flush_eq, pure_bind]
    rfl
  | cons line rest ih =>
    obtain ⟨here, later⟩ := List.forall_mem_cons.1 small
    rw [readLines, step_eq here, pure_bind, List.foldlM_cons]
    cases Doc.step state line with
    | error cause => rfl
    | ok next => exact ih later next

theorem sublist_of_mem_lines {text row : List Char} (member : row ∈ lines text) :
    row.Sublist text := by
  fun_induction lines text generalizing row with
  | case1 => cases member
  | case2 rest ih =>
    rcases List.mem_cons.1 member with rfl | later
    · exact List.nil_sublist _
    · exact (ih later).cons _
  | case3 rest ih =>
    rcases List.mem_cons.1 member with rfl | later
    · exact List.nil_sublist _
    · exact ((ih later).cons _).cons _
  | case4 c rest notFeed notReturn ih =>
    cases cutRest : lines rest with
    | nil =>
      rw [cutRest] at member
      obtain rfl := List.mem_singleton.1 member
      exact List.singleton_sublist.2 List.mem_cons_self
    | cons first more =>
      rw [cutRest] at member ih
      rcases List.mem_cons.1 member with rfl | later
      · exact (ih List.mem_cons_self).cons_cons _
      · exact (ih (List.mem_cons_of_mem _ later)).cons _

theorem length_logicalLines {body line : List Char} (member : line ∈ logicalLines body) :
    line.length ≤ body.length := by
  obtain ⟨row, here, rfl⟩ := List.mem_map.1 member
  have row_body : row.Sublist body :=
    (sublist_of_mem_lines here).trans (List.rdropWhile_prefix _ _).sublist
  have line_row : (trimEnd (undecorate row)).Sublist row :=
    (List.rdropWhile_prefix _ _).sublist.trans (undecorate_suffix row).sublist
  exact (line_row.trans row_body).length_le

theorem ofBody_eq {body : List Char} (small : body.length < 0x80000000) :
    ofBody body = pure (Doc.ofBody (String.ofList body)) := by
  have short : ∀ line ∈ logicalLines body, line.length < 0x80000000 := fun line member =>
    Nat.lt_of_le_of_lt (length_logicalLines member) small
  rw [ofBody, readLines_eq short, Doc.ofBody, String.toList_ofList]
  cases (logicalLines body).foldlM Doc.step ({}, none) <;> rfl

end Body

/-- Reading a comment of less than two gigabytes by offsets never fails: no offset falls outside its
text or inside a character, no range is reversed, and no counter leaves its bounds. The result is
what the comment says. -/
theorem ofComment_never_faults (block : Bool) (text : String) (seed : Seed)
    (small : text.utf8ByteSize < 0x80000000) :
    ofComment block text seed = .ok (Record.ofComment block text seed) := by
  have length : text.toList.length < 0x80000000 := by
    have bytes := length_le_byteSize text.toList
    rw [← byteSize_ofList, String.ofList_toList] at bytes
    omega
  unfold ofComment Record.ofComment
  split
  · rename_i documented
    obtain ⟨rest, shape⟩ : ∃ rest, text.toList = '*' :: rest := by
      simpa [isDocStyle, List.head?_eq_some_iff] using (Bool.and_eq_true_iff.1 documented).2
    have behind : sliceFrom 1 text.toList = pure rest := by
      rw [shape]
      exact sliceFrom_append ['*'] rest
    have short : rest.length < 0x80000000 := by
      rw [shape, List.length_cons] at length
      omega
    rw [behind, pure_bind, ofBody_eq short, pure_bind, shape]
    rfl
  · rfl

theorem accented_header_never_faults :
    let text := "* @param \x7bMap<é, \x7bü: 1\x7d>|null\x7d [é=[1]] – ß"
    let item : Param := {
      name := "é"
      types := ["Map<é, \x7bü: 1\x7d>", "null"]
      optional := true
      default := some "[1]"
      desc := some "– ß" }
    text.utf8ByteSize < 0x80000000 ∧
      ofComment true text {} = .ok (.ok (some { params := [item] })) := by
  intro text item
  have small : text.utf8ByteSize < 0x80000000 := by decide
  have read : Record.ofComment true text {} = .ok (some { params := [item] }) := by decide +kernel
  exact ⟨small, (ofComment_never_faults true text {} small).trans (congrArg Except.ok read)⟩

end Commentary.Comment.Guarded
