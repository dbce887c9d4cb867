import Commentary.Proofs.Unions
import Commentary.Proofs.WellFormed

/-! The alternatives of a type, taken apart and put together again. A text is one alternative,
whatever its brackets do, or it starts with an alternative whose brackets are closed and a bar
behind it. Facts about alternatives are proved along this division. -/
namespace Commentary.Comment

open Text

section Depth

variable {depth : Int} {previous : Char}

theorem ne_of_isBlank {c d : Char} (blank : isBlank c = true) (visible : isBlank d = false) :
    c ≠ d := by
  rintro rfl
  rw [blank] at visible
  cases visible

theorem depthChange_of_isBlank {c : Char} (blank : isBlank c = true) :
    depthChange previous c = 0 := by
  have other {d : Char} (visible : isBlank d = false) : c ≠ d := ne_of_isBlank blank visible
  have opens : c ≠ '(' ∧ c ≠ '[' ∧ c ≠ '{' ∧ c ≠ '<' :=
    ⟨other (by decide), other (by decide), other (by decide), other (by decide)⟩
  have closes : c ≠ ')' ∧ c ≠ ']' ∧ c ≠ '}' ∧ c ≠ '>' :=
    ⟨other (by decide), other (by decide), other (by decide), other (by decide)⟩
  simp [depthChange, opens, closes]

theorem depthAfter_append (text more : List Char) : depthAfter depth previous (text ++ more) =
    depthAfter (depthAfter depth previous text) (text.getLastD previous) more := by
  induction text generalizing depth previous with
  | nil => rfl
  | cons c rest ih => rw [List.cons_append, depthAfter, ih, depthAfter, List.getLastD_cons]

theorem depthAfter_blank {space : List Char} (blank : isBlankLine space = true) :
    depthAfter depth previous space = depth := by
  induction space generalizing depth previous with
  | nil => rfl
  | cons c rest ih =>
    simp only [isBlankLine, List.all_cons, Bool.and_eq_true] at blank
    rw [depthAfter, depthChange_of_isBlank blank.1, ih blank.2, Int.add_zero]

theorem depthAfter_previous (other : previous ≠ '=') (text : List Char) :
    depthAfter depth previous text = depthAfter depth ' ' text := by
  cases text with
  | nil => rfl
  | cons c rest => simp [depthAfter, depthChange, other]

theorem last_blank_ne {space : List Char} (blank : isBlankLine space = true) :
    space.getLastD ' ' ≠ '=' := by
  rw [isBlankLine, List.all_eq_true] at blank
  rcases List.eq_nil_or_concat space with rfl | ⟨front, c, rfl⟩
  · decide
  · simpa using ne_of_isBlank (blank c (by simp)) (by decide)

theorem cutUnion_append_eq_singleton (text more : List Char) :
    cutUnion depth previous (text ++ more) = [text ++ more] ↔
      cutUnion depth previous text = [text] ∧
      cutUnion (depthAfter depth previous text) (text.getLastD previous) more = [more] := by
  induction text generalizing depth previous with
  | nil => simp [cutUnion, depthAfter]
  | cons c rest ih =>
    rw [List.cons_append, cutUnion, cutUnion, depthAfter]
    split
    · simp
    · have push {pieces : List (List Char)} {t : List Char} (some_piece : pieces ≠ []) :
          pushFirst c pieces = [c :: t] ↔ pieces = [t] := by
        cases pieces with
        | nil => exact absurd rfl some_piece
        | cons first others => simp [pushFirst]
      rw [push (cutUnion_ne_nil _ _ _), push (cutUnion_ne_nil _ _ _), ih, List.getLastD_cons]

theorem cutUnion_blank {space : List Char} (blank : isBlankLine space = true) :
    cutUnion depth previous space = [space] := by
  induction space generalizing depth previous with
  | nil => rfl
  | cons c rest ih =>
    simp only [isBlankLine, List.all_cons, Bool.and_eq_true] at blank
    have plain : c ≠ '|' := ne_of_isBlank blank.1 (by decide)
    simp [cutUnion, plain, ih blank.2, pushFirst]

theorem whole_or_divided (depth : Int) (previous : Char) (text : List Char) :
    cutUnion depth previous text = [text] ∨
      ∃ front rest, text = front ++ '|' :: rest ∧ cutUnion depth previous front = [front] ∧
        depthAfter depth previous front = 0 := by
  induction text generalizing depth previous with
  | nil => exact .inl rfl
  | cons c text ih =>
    by_cases bar : c = '|' ∧ depth = 0
    · obtain ⟨rfl, rfl⟩ := bar
      exact .inr ⟨[], text, rfl, rfl, rfl⟩
    · rcases ih (depth + depthChange previous c) c with whole | ⟨front, rest, rfl, whole, closed⟩
      · exact .inl (by rw [cutUnion, if_neg bar, whole]; rfl)
      · exact .inr ⟨c :: front, rest, rfl, by rw [cutUnion, if_neg bar, whole]; rfl, closed⟩

end Depth

/-- No bar divides the text. -/
def Whole (text : List Char) : Prop :=
  cutUnion 0 ' ' text = [text]

theorem union_induction {P : List Char → Prop} (whole : ∀ text, Whole text → P text)
    (divided : ∀ front rest, Whole front → depthAfter 0 ' ' front = 0 → P rest →
      P (front ++ '|' :: rest)) (text : List Char) : P text := by
  induction length : text.length using Nat.strong_induction_on generalizing text with
  | _ n ih =>
    rcases whole_or_divided 0 ' ' text with single | ⟨front, rest, rfl, single, closed⟩
    · exact whole text single
    · have shorter : rest.length < n := by
        rw [← length, List.length_append, List.length_cons]
        omega
      exact divided front rest single closed (ih rest.length shorter rest rfl)

theorem depthAfter_trim (text : List Char) :
    depthAfter 0 ' ' (trim text) = depthAfter 0 ' ' text := by
  obtain ⟨lead, tail, before, behind, shape⟩ := exists_trim text
  calc
    depthAfter 0 ' ' (trim text)
      = depthAfter 0 (lead.getLastD ' ') (trim text) :=
        (depthAfter_previous (last_blank_ne before) _).symm
    _ = depthAfter 0 ' ' (lead ++ (trim text ++ tail)) := by
        rw [depthAfter_append, depthAfter_append, depthAfter_blank before, depthAfter_blank behind]
    _ = depthAfter 0 ' ' text := by rw [← shape]

namespace Whole

variable {text : List Char}

theorem trimmed (whole : Whole text) : Whole (trim text) := by
  obtain ⟨lead, tail, before, _, shape⟩ := exists_trim text
  rw [Whole, shape] at whole
  have behind := ((cutUnion_append_eq_singleton _ _).1 whole).2
  rw [depthAfter_blank before, cutUnion_previous (last_blank_ne before)] at behind
  exact ((cutUnion_append_eq_singleton _ _).1 behind).1

theorem append_blank (whole : Whole text) {space : List Char} (blank : isBlankLine space = true) :
    Whole (text ++ space) :=
  (cutUnion_append_eq_singleton _ _).2 ⟨whole, cutUnion_blank blank⟩

theorem splitUnion_eq (whole : Whole text) : splitUnion text = (nonBlank text).toList := by
  rw [splitUnion, whole]
  cases kept : nonBlank text <;> simp [kept]

theorem splitUnion_again (whole : Whole text) {t : String} (kept : nonBlank text = some t) :
    splitUnion t.toList = [t] := by
  obtain ⟨something, rfl⟩ := nonBlank_eq_some kept
  rw [String.toList_ofList, whole.trimmed.splitUnion_eq, nonBlank, trim_trim]
  simp [something]

/- Nothing but a bracket keeps a bar from dividing a text. -/
theorem blank_of_bars (whole : Whole text) (plain : ∀ c ∈ text, c = '|' ∨ isBlank c = true) :
    isBlankLine text = true := by
  suffices general : ∀ previous, cutUnion 0 previous text = [text] → isBlankLine text = true
    from general ' ' whole
  clear whole
  induction text with
  | nil => exact fun _ _ => rfl
  | cons c rest ih =>
    intro previous single
    obtain ⟨here, later⟩ := List.forall_mem_cons.1 plain
    rcases here with rfl | blank
    · simp [cutUnion] at single
    · have behind := ((cutUnion_append_eq_singleton [c] rest).1 single).2
      have level : depthAfter 0 previous [c] = 0 := depthAfter_blank (by simp [isBlankLine, blank])
      rw [level] at behind
      have rest := ih later c behind
      simpa [isBlankLine, blank] using rest

end Whole

theorem splitUnion_divided {front : List Char} (whole : Whole front)
    (closed : depthAfter 0 ' ' front = 0) (rest : List Char) :
    splitUnion (front ++ '|' :: rest) = (nonBlank front).toList ++ splitUnion rest := by
  rw [splitUnion_append closed, whole.splitUnion_eq]

theorem splitUnion_blank (text : List Char) : splitUnion (' ' :: text) = splitUnion text := by
  have start : cutUnion 0 ' ' (' ' :: text) = pushFirst ' ' (cutUnion 0 ' ' text) := by
    simp [cutUnion, depthChange]
  rw [splitUnion, start, splitUnion]
  obtain ⟨first, more, pieces⟩ := List.exists_cons_of_ne_nil (cutUnion_ne_nil 0 ' ' text)
  have same : nonBlank (' ' :: first) = nonBlank first := by
    have blank : isBlank ' ' = true := by decide
    simp [nonBlank, trim, trimStart, blank]
  simp [pieces, pushFirst, List.filterMap_cons, same]

theorem splitUnion_of_mem (type : List Char) :
    ∀ t ∈ splitUnion type, splitUnion t.toList = [t] := by
  induction type using union_induction with
  | whole text whole =>
    rw [whole.splitUnion_eq]
    exact fun t kept => whole.splitUnion_again (Option.mem_toList.1 kept)
  | divided front rest whole closed ih =>
    rw [splitUnion_divided whole closed]
    intro t member
    rcases List.mem_append.1 member with kept | later
    · exact whole.splitUnion_again (Option.mem_toList.1 kept)
    · exact ih t later

/- The space in front of the bar stays with the first alternative. -/
theorem splitUnion_spaced {front : List Char} (whole : Whole front)
    (closed : depthAfter 0 ' ' front = 0) (something : trim front ≠ []) (more : List Char) :
    splitUnion ((trim front ++ [' ']) ++ '|' :: ' ' :: more) =
      String.ofList (trim front) :: splitUnion more := by
  have spaced : Whole (trim front ++ [' ']) := whole.trimmed.append_blank (by decide)
  have level : depthAfter 0 ' ' (trim front ++ [' ']) = 0 := by
    rw [depthAfter_append, depthAfter_trim, closed]
    exact depthAfter_blank (by decide)
  have cut : trim (trim front ++ [' ']) = trim front :=
    calc
      trim (trim front ++ [' ']) = trim (trimEnd (trim front ++ [' '])) := (trim_trimEnd _).symm
      _ = trim (trimEnd (trim front)) := by rw [trimEnd_append_blank (by decide)]
      _ = trim front := by rw [trim_trimEnd, trim_trim]
  have first : nonBlank (trim front ++ [' ']) = some (String.ofList (trim front)) := by
    simp [nonBlank, cut, something]
  rw [splitUnion_divided spaced level, first, splitUnion_blank]
  rfl

theorem splitUnion_intercalate (type : List Char) :
    splitUnion (" | ".intercalate (splitUnion type)).toList = splitUnion type := by
  induction type using union_induction with
  | whole text whole =>
    rw [whole.splitUnion_eq]
    cases kept : nonBlank text with
    | none => rfl
    | some t => simpa using whole.splitUnion_again kept
  | divided front rest whole closed ih =>
    rw [splitUnion_divided whole closed]
    cases kept : nonBlank front with
    | none => exact ih
    | some t =>
      cases later : splitUnion rest with
      | nil => simpa using whole.splitUnion_again kept
      | cons next others =>
        rw [later] at ih
        obtain ⟨something, rfl⟩ := nonBlank_eq_some kept
        have text : (" | ".intercalate (String.ofList (trim front) :: next :: others)).toList =
            (trim front ++ [' ']) ++ '|' :: ' ' :: (" | ".intercalate (next :: others)).toList := by
          simp [String.intercalate_cons_cons]
        calc
          splitUnion (" | ".intercalate (String.ofList (trim front) :: next :: others)).toList
            = String.ofList (trim front) ::
                splitUnion (" | ".intercalate (next :: others)).toList := by
              rw [text, splitUnion_spaced whole closed something]
          _ = String.ofList (trim front) :: next :: others := by rw [ih]

theorem splitUnion_eq_nil_iff (type : List Char) :
    splitUnion type = [] ↔ ∀ c ∈ type, c = '|' ∨ isBlank c = true := by
  have nothing {text : List Char} (whole : Whole text) :
      (nonBlank text).toList = [] ↔ ∀ c ∈ text, c = '|' ∨ isBlank c = true := by
    have blank : (nonBlank text).toList = [] ↔ isBlankLine text = true := by
      rw [nonBlank_eq]
      cases isBlankLine text <;> simp
    rw [blank]
    refine ⟨fun space c member => .inr ?_, whole.blank_of_bars⟩
    exact List.all_eq_true.1 space c member
  induction type using union_induction with
  | whole text whole => rw [whole.splitUnion_eq, nothing whole]
  | divided front rest whole closed ih =>
    rw [splitUnion_divided whole closed, List.append_eq_nil_iff, List.forall_mem_append,
      List.forall_mem_cons]
    exact and_congr (nothing whole) (ih.trans (by simp))

/-- A bar with no bracket open before it. -/
def isDivider (before : List Char) (c : Char) : Bool :=
  c = '|' && depthAfter 0 ' ' before = 0

/-- There is only white space since the start of the text or the last dividing bar. -/
def isAtStart (before : List Char) : Bool :=
  match (trimEnd before).reverse with
  | [] => true
  | c :: front => isDivider front.reverse c

/-- There is only white space up to the end of the text or the next dividing bar. -/
def isAtEnd (before after : List Char) : Bool :=
  match trimStart after with
  | [] => true
  | c :: _ => isDivider (before ++ after.takeWhile isBlank) c

def isKept (before : List Char) (c : Char) (after : List Char) : Bool :=
  !isDivider before c && !(isBlank c && (isAtStart before || isAtEnd (before ++ [c]) after))

/-- What follows a text, without the dividing bars and the white space around them and at the
ends. -/
def bare (before : List Char) : List Char → List Char
  | [] => []
  | c :: after =>
    if isKept before c after then c :: bare (before ++ [c]) after else bare (before ++ [c]) after

/- The pieces of what follows a text. The first of them goes on with the last piece before. -/
def cutBehind (before after : List Char) : List (List Char) :=
  cutUnion (depthAfter 0 ' ' before) (before.getLastD ' ') after

theorem cutBehind_cons (before : List Char) (c : Char) (after : List Char) :
    cutBehind before (c :: after) =
      if isDivider before c then [] :: cutBehind (before ++ [c]) after
      else pushFirst c (cutBehind (before ++ [c]) after) := by
  have level : depthAfter 0 ' ' (before ++ [c]) =
      depthAfter 0 ' ' before + depthChange (before.getLastD ' ') c := depthAfter_append _ _
  have last : (before ++ [c]).getLastD ' ' = c := List.getLastD_concat
  simp only [cutBehind, cutUnion, level, last, isDivider]
  by_cases bar : c = '|' ∧ depthAfter 0 ' ' before = 0
  · obtain ⟨rfl, closed⟩ := bar
    simp [closed, depthChange]
  · simp [bar]

theorem isAtStart_push {before : List Char} {c : Char} :
    isAtStart (before ++ [c]) = if isBlank c then isAtStart before else isDivider before c := by
  unfold isAtStart
  have ended : trimEnd (before ++ [c]) = if isBlank c then trimEnd before else before ++ [c] :=
    List.rdropWhile_concat _ _ _
  rw [ended]
  cases isBlank c <;> simp

theorem cutBehind_ne_nil (before after : List Char) : cutBehind before after ≠ [] :=
  cutUnion_ne_nil _ _ _

theorem isAtEnd_eq {before after first : List Char} {more : List (List Char)}
    (pieces : cutBehind before after = first :: more) :
    isAtEnd before after = isBlankLine first := by
  induction after generalizing before first more with
  | nil =>
    cases pieces
    rfl
  | cons c after ih =>
    obtain ⟨next, others, behind⟩ :=
      List.exists_cons_of_ne_nil (cutBehind_ne_nil (before ++ [c]) after)
    have rest := ih behind
    rw [cutBehind_cons, behind] at pieces
    cases blank : isBlank c with
    | true =>
      have plain : isDivider before c = false := by
        simp [isDivider, ne_of_isBlank blank (d := '|') (by decide)]
      have same : isAtEnd before (c :: after) = isAtEnd (before ++ [c]) after := by
        simp [isAtEnd, trimStart, blank]
      rw [plain] at pieces
      cases pieces
      simp [same, rest, isBlankLine, blank]
    | false =>
      have here : isAtEnd before (c :: after) = isDivider before c := by
        simp [isAtEnd, trimStart, blank]
      rw [here]
      cases divider : isDivider before c with
      | true =>
        rw [divider] at pieces
        cases pieces
        rfl
      | false =>
        rw [divider] at pieces
        cases pieces
        simp [isBlankLine, blank]

theorem bare_eq {before after first : List Char} {more : List (List Char)}
    (pieces : cutBehind before after = first :: more) :
    bare before after =
      (if isAtStart before then trim first else trimEnd first) ++ more.flatMap trim := by
  induction after generalizing before first more with
  | nil =>
    cases pieces
    simp [bare, trim, trimStart, trimEnd]
  | cons c after ih =>
    obtain ⟨next, others, behind⟩ :=
      List.exists_cons_of_ne_nil (cutBehind_ne_nil (before ++ [c]) after)
    have rest := ih behind
    have ending := isAtEnd_eq behind
    rw [cutBehind_cons, behind] at pieces
    rw [isAtStart_push] at rest
    rw [bare, isKept, ending, rest]
    cases divider : isDivider before c with
    | true =>
      have visible : isBlank c = false := by
        simp only [isDivider, Bool.and_eq_true, decide_eq_true_eq] at divider
        rw [divider.1]
        decide
      rw [divider] at pieces
      cases pieces
      simp [visible, trim, trimStart, trimEnd]
    | false =>
      rw [divider] at pieces
      cases pieces
      cases blank : isBlank c with
      | false => simp [trim, trimStart, blank, trimEnd_cons]
      | true =>
        cases start : isAtStart before with
        | true => simp [trim, trimStart, blank]
        | false =>
          -- White space behind something visible goes only with all the rest of the piece.
          cases gone : isBlankLine next with
          | true => simp [trimEnd_cons, blank, trimEnd_eq_nil_iff.2 gone]
          | false =>
            have left : trimEnd next ≠ [] := by simp [trimEnd_eq_nil_iff, gone]
            simp [trimEnd_cons, left]

theorem flatMap_nonBlank (pieces : List (List Char)) :
    (pieces.filterMap nonBlank).flatMap String.toList = pieces.flatMap trim := by
  induction pieces with
  | nil => rfl
  | cons piece more ih =>
    rw [List.filterMap_cons, List.flatMap_cons, ← ih, nonBlank]
    by_cases nothing : trim piece = [] <;> simp [nothing]

/-- Alternatives with bars between them are read again as they were, and each of them by itself is
one alternative. They are not empty and have no white space at their ends. One after the other they
are the type without its dividing bars and the white space around these and at the ends, and there
is none of them if there is nothing but bars and white space in the type. -/
theorem alternatives_read_again (type : List Char) :
    splitUnion (" | ".intercalate (splitUnion type)).toList = splitUnion type ∧
    (∀ t ∈ splitUnion type, splitUnion t.toList = [t] ∧ Trimmed t) ∧
    (splitUnion type).flatMap String.toList = bare [] type ∧
    (splitUnion type = [] ↔ ∀ c ∈ type, c = '|' ∨ isBlank c = true) := by
  refine ⟨splitUnion_intercalate type, ?_, ?_, splitUnion_eq_nil_iff type⟩
  · exact fun t member => ⟨splitUnion_of_mem type t member, trimmed_splitUnion type t member⟩
  · obtain ⟨first, more, pieces⟩ := List.exists_cons_of_ne_nil (cutBehind_ne_nil [] type)
    have start : cutUnion 0 ' ' type = first :: more := pieces
    calc
      (splitUnion type).flatMap String.toList = (first :: more).flatMap trim := by
        rw [splitUnion, start, flatMap_nonBlank]
      _ = bare [] type := (bare_eq pieces).symm

example : bare [] " a | b<c | d> | (x) => y |".toList = "ab<c | d>(x) => y".toList := by decide

end Commentary.Comment
