import Commentary.Proofs.Headers
import Commentary.Proofs.Unions

/-! Headers written out. What a parameter says can be written as a header and read from it again,
as long as no bracket, bar or dash of its own can be taken for one of the header's. -/
namespace Commentary.Text

/- The table of letters starts above ASCII and has no white space in it. -/
theorem alphanumericRanges_apart : ∀ range ∈ alphanumericRanges, 128 ≤ range.1 ∧
    ∀ blank ∈ blankRanges, blank.2 < range.1 ∨ range.2 < blank.1 := by
  decide +kernel

theorem range_of_inRanges {ranges : List (Nat × Nat)} {c : Char}
    (member : inRanges ranges c = true) :
    ∃ range ∈ ranges, range.1 ≤ c.toNat ∧ c.toNat ≤ range.2 := by
  simpa [inRanges] using member

theorem isAlphanumeric_of_ascii {c : Char} (ascii : c.toNat < 128) :
    isAlphanumeric c = c.isAlphanum := by
  have outside : inRanges alphanumericRanges c = false := by
    rw [Bool.eq_false_iff]
    intro member
    obtain ⟨range, listed, above, _⟩ := range_of_inRanges member
    have start := (alphanumericRanges_apart range listed).1
    omega
  rw [isAlphanumeric, outside, Bool.or_false]

theorem isAlphanum_range {c : Char} (letter : c.isAlphanum = true) :
    48 ≤ c.toNat ∧ c.toNat ≤ 122 := by
  have kinds : (c.isUpper = true ∨ c.isLower = true) ∨ c.isDigit = true := by
    rw [← Bool.or_eq_true, ← Bool.or_eq_true]
    exact letter
  rcases kinds with (upper | lower) | digit
  · have bounds : c.val ≥ 'A'.val ∧ c.val ≤ 'Z'.val := of_decide_eq_true upper
    exact ⟨Nat.le_trans (by decide) bounds.1, Nat.le_trans bounds.2 (by decide)⟩
  · have bounds : c.val ≥ 'a'.val ∧ c.val ≤ 'z'.val :=
      (Bool.and_eq_true_iff.1 lower).imp of_decide_eq_true of_decide_eq_true
    exact ⟨Nat.le_trans (by decide) bounds.1, Nat.le_trans bounds.2 (by decide)⟩
  · have bounds := Char.isDigit_iff_toNat.1 digit
    exact ⟨bounds.1, Nat.le_trans bounds.2 (by decide)⟩

theorem not_isBlank_of_isAlphanumeric {c : Char} (letter : isAlphanumeric c = true) :
    isBlank c = false := by
  rw [Bool.eq_false_iff]
  intro white
  obtain ⟨blank, listed, above, below⟩ := range_of_inRanges white
  rw [isAlphanumeric, Bool.or_eq_true] at letter
  rcases letter with low | high
  · have bounds := isAlphanum_range low
    have ascii : ∀ blank ∈ blankRanges, blank.2 < 48 ∨ 122 < blank.1 := by decide
    have apart := ascii blank listed
    omega
  · obtain ⟨range, member, start, stop⟩ := range_of_inRanges high
    have apart := (alphanumericRanges_apart range member).2 blank listed
    omega

end Commentary.Text

namespace Commentary

open Text (trim trimStart Trimmed)

namespace Comment

/-- A type that can stand among others in braces: none of its brackets and bars is taken for one of
those around it. -/
structure ExpressibleType (type : String) : Prop where
  trimmed : Trimmed type
  braces : Balanced '{' '}' type.toList
  whole : splitUnion type.toList = [type]
  level : depthAfter 0 ' ' type.toList = 0

theorem isNameChar_visible {c : Char} (part : isNameChar c = true) : Text.isBlank c = false := by
  simp only [isNameChar, Bool.or_eq_true, beq_iff_eq] at part
  rcases part with ((letter | rfl) | rfl) | rfl
  · exact Text.not_isBlank_of_isAlphanumeric letter
  · decide
  · decide
  · decide

theorem isNameChar_plain {c : Char} (part : isNameChar c = true) : c ∉ ['=', '[', ']', '{'] := by
  intro member
  have outside : isNameChar c = false := by
    simp only [List.mem_cons, List.not_mem_nil, or_false] at member
    rcases member with rfl | rfl | rfl | rfl <;>
      (rw [isNameChar, Text.isAlphanumeric_of_ascii (by decide)]; decide)
  rw [outside] at part
  cases part

theorem token?_balanced {opening closing : Char} (distinct : opening ≠ closing)
    {inner : List Char} (balanced : Balanced opening closing inner) (rest : List Char) :
    token? opening closing (opening :: inner ++ closing :: rest) =
      some (opening :: inner ++ [closing]) := by
  rw [List.cons_append, token?_cons distinct,
    spanBalanced_append distinct balanced.1 balanced.2.symm]
  rfl

end Comment

namespace Param

open Comment

/-- What can be written as a header. -/
structure Expressible (p : Param) : Prop where
  types : ∀ type ∈ p.types, ExpressibleType type
  something : p.name ≠ ""
  name : p.name.toList.all isNameChar = true
  default : ∀ value, p.default = some value →
    p.optional = true ∧ Trimmed value ∧ Balanced '[' ']' value.toList

def unionText (types : List String) : List Char :=
  Text.joined '|' (types.map String.toList)

def bracketText (p : Param) : List Char :=
  p.name.toList ++ p.default.elim [] fun value => '=' :: value.toList

def nameText (p : Param) : List Char :=
  if p.optional then '[' :: p.bracketText ++ [']'] else p.name.toList

/-- A header with the start of a description: `{first|second} [name=default] description`, where
what is missing is left out. -/
def headerText (p : Param) (first : List Char) : List Char :=
  (if p.types = [] then [] else ' ' :: '{' :: unionText p.types ++ ['}']) ++
    ' ' :: p.nameText ++ ' ' :: first

namespace Expressible

variable {p : Param} (expressible : p.Expressible)
include expressible

theorem name_ne_nil : p.name.toList ≠ [] := by
  simpa using expressible.something

theorem name_visible : ∀ c ∈ p.name.toList, Text.isBlank c = false :=
  fun c member => isNameChar_visible (List.all_eq_true.1 expressible.name c member)

theorem name_plain : ∀ c ∈ p.name.toList, c ≠ '=' ∧ c ≠ '[' ∧ c ≠ ']' ∧ c ≠ '{' :=
  fun c member => by simpa using isNameChar_plain (List.all_eq_true.1 expressible.name c member)

theorem name_unsigned : ∀ c ∈ p.name.toList, (c != '=') = true :=
  fun c member => bne_iff_ne.2 (expressible.name_plain c member).1

theorem splitUnion_unionText : splitUnion (trim (unionText p.types)) = p.types := by
  have trimmed : trim (unionText p.types) = unionText p.types :=
    Text.trim_joined
      (List.forall_mem_map.2 fun type listed => by
        simpa using (expressible.types type listed).trimmed.1)
      (List.forall_mem_map.2 fun type listed => (expressible.types type listed).trimmed.2)
  have closed : ∀ piece ∈ p.types.map String.toList, depthAfter 0 ' ' piece = 0 :=
    List.forall_mem_map.2 fun type listed => (expressible.types type listed).level
  rw [trimmed, unionText, splitUnion_joined closed, List.flatMap_map,
    List.flatMap_congr fun type listed => (expressible.types type listed).whole]
  simp

theorem balanced_unionText : Balanced '{' '}' (unionText p.types) :=
  .joined (by decide) (by decide)
    (List.forall_mem_map.2 fun type listed => (expressible.types type listed).braces)

theorem takeWhile_bracketText : p.bracketText.takeWhile (· != '=') = p.name.toList := by
  rw [bracketText, List.takeWhile_append_of_pos expressible.name_unsigned]
  cases p.default <;> simp

theorem default_bracketText :
    Text.nonBlank ((p.bracketText.dropWhile (· != '=')).drop 1) = p.default := by
  rw [bracketText, List.dropWhile_append_of_pos expressible.name_unsigned]
  cases given : p.default with
  | none => rfl
  | some value =>
    obtain ⟨_, ⟨something, trimmed⟩, _⟩ := expressible.default value given
    simp [Text.nonBlank, trimmed, something]

theorem balanced_bracketText : Balanced '[' ']' p.bracketText := by
  refine (Balanced.of_plain fun c member => ?_).append ?_
  · obtain ⟨_, opening, closing, _⟩ := expressible.name_plain c member
    exact ⟨opening, closing⟩
  · cases given : p.default with
    | none => decide
    | some value =>
      have sign : Balanced '[' ']' ['='] := by decide
      exact sign.append (expressible.default value given).2.2

/- The name, bracketed or not, starts with a character that no type starts with. -/
theorem nameText_starts :
    ∃ c rest, p.nameText = c :: rest ∧ Text.isBlank c = false ∧ c ≠ '{' := by
  unfold nameText
  split
  · exact ⟨'[', _, rfl, by decide, by decide⟩
  · obtain ⟨c, rest, shape⟩ := List.exists_cons_of_ne_nil expressible.name_ne_nil
    have member : c ∈ p.name.toList := by simp [shape]
    exact ⟨c, rest, shape, expressible.name_visible c member,
      (expressible.name_plain c member).2.2.2⟩

theorem nameToken_brackets (optional : p.optional = true) (first : List Char) :
    NameToken (p.nameText ++ ' ' :: first) p.nameText { p with types := [], desc := none } := by
  have shape : p.nameText = '[' :: p.bracketText ++ [']'] := by simp [nameText, optional]
  have content : inside p.nameText = p.bracketText := by simp [inside, shape]
  have starts : (p.nameText ++ ' ' :: first).head? = some '[' := by simp [shape]
  have closed : token? '[' ']' (p.nameText ++ ' ' :: first) = some p.nameText := by
    rw [shape, List.append_assoc]
    exact token?_balanced (by decide) expressible.balanced_bracketText _
  have trimmed : trim p.name.toList = p.name.toList := Text.trim_of_visible expressible.name_visible
  have filled : Text.isBlankLine p.name.toList = false := by
    rw [Text.isBlankLine_eq_false_iff, trimmed]
    exact expressible.name_ne_nil
  have token := NameToken.brackets starts closed
    (by rw [content, expressible.takeWhile_bracketText]; exact filled)
  rw [content, expressible.takeWhile_bracketText, expressible.default_bracketText, trimmed,
    String.ofList_toList] at token
  rw [optional]
  exact token

theorem nameToken_word (required : p.optional = false) (first : List Char) :
    NameToken (p.nameText ++ ' ' :: first) p.nameText { p with types := [], desc := none } := by
  have shape : p.nameText = p.name.toList := by simp [nameText, required]
  have default : p.default = none := by
    cases given : p.default with
    | none => rfl
    | some value =>
      rw [(expressible.default value given).1] at required
      cases required
  have word : firstWord (p.nameText ++ ' ' :: first) = p.nameText := by
    rw [firstWord, shape, List.takeWhile_append_of_pos (by simpa using expressible.name_visible)]
    simp [Text.isBlank, Text.inRanges, Text.blankRanges]
  have other : (p.nameText ++ ' ' :: first).head? ≠ some '[' := by
    obtain ⟨c, rest, starts⟩ := List.exists_cons_of_ne_nil expressible.name_ne_nil
    simpa [shape, starts] using (expressible.name_plain c (by simp [starts])).2.1
  have token := NameToken.word other (by rw [word, shape]; exact expressible.name_ne_nil)
    (by rw [word, shape]; exact expressible.name)
  rw [word, shape, String.ofList_toList] at token
  rw [required, default, shape]
  exact token

theorem typeToken (first : List Char) : ∃ token,
    TypeToken (trimStart (p.headerText first)) token p.types ∧
      behind token (trimStart (p.headerText first)) = p.nameText ++ ' ' :: first := by
  obtain ⟨c, rest, shape, visible, other⟩ := expressible.nameText_starts
  have space : Text.isBlank ' ' = true := by decide
  have stripped : trimStart (' ' :: p.nameText ++ ' ' :: first) = p.nameText ++ ' ' :: first := by
    simp [trimStart, shape, visible, space]
  by_cases untyped : p.types = []
  · have whole : p.headerText first = ' ' :: p.nameText ++ ' ' :: first := by
      simp [headerText, untyped]
    rw [whole, stripped, untyped]
    refine ⟨[], .missing (by simpa [shape] using other), ?_⟩
    simp [behind, trimStart, shape, visible]
  · have whole : trimStart (p.headerText first) =
        '{' :: unionText p.types ++ '}' :: (' ' :: p.nameText ++ ' ' :: first) := by
      simp [headerText, untyped, trimStart, space, show Text.isBlank '{' = false by decide]
    have content : inside ('{' :: unionText p.types ++ ['}']) = unionText p.types := by
      simp [inside]
    have filled : Text.isBlankLine (unionText p.types) = false := by
      rw [Text.isBlankLine_eq_false_iff]
      intro nothing
      have types := expressible.splitUnion_unionText
      rw [nothing] at types
      exact untyped types.symm
    have closed := token?_balanced (by decide) expressible.balanced_unionText
      (' ' :: p.nameText ++ ' ' :: first)
    have token := TypeToken.braces rfl closed (by rw [content]; exact filled)
    rw [content, expressible.splitUnion_unionText] at token
    rw [whole]
    refine ⟨_, token, ?_⟩
    rw [← stripped, behind]
    simp

theorem nameToken (first : List Char) :
    NameToken (p.nameText ++ ' ' :: first) p.nameText { p with types := [], desc := none } := by
  rcases Bool.eq_false_or_eq_true p.optional with optional | required
  · exact expressible.nameToken_brackets optional first
  · exact expressible.nameToken_word required first

end Expressible

theorem description_of_trimmed {first : List Char} (trimmed : trim first = first)
    (undashed : dashed first = false) : description (' ' :: first) = first := by
  have alone : trim (' ' :: first) = first := trimmed
  rw [description, alone, undashed]
  rfl

/-- Whatever can be written as a header is read from it again, with nothing lost or added, and so is
the description behind it. -/
theorem readHeader_headerText (tag : String) (p : Param) (expressible : p.Expressible)
    (first : List Char) (trimmed : trim first = first) (undashed : dashed first = false) :
    readHeader tag (p.headerText first) true = .ok ({ p with desc := none }, first) := by
  obtain ⟨token, start, next⟩ := expressible.typeToken first
  have second := expressible.nameToken first
  rw [← next] at second
  have header := Header.named start second
  rw [next, List.drop_left, description_of_trimmed trimmed undashed] at header
  rw [readHeader, readHeader?_eq_some_iff.2 header]

/-- Braces and bars within the types, an arrow, and brackets with an equals sign in the default. -/
theorem nested_header_read_again :
    let p : Param := {
      name := "row1"
      types := ["\x7bid: number\x7d", "Map<string|number, () => void>"]
      optional := true
      default := some "[a=1, [2]]" }
    let first := "-5 or less".toList
    p.headerText first = (" \x7b\x7bid: number\x7d|Map<string|number, () => void>\x7d" ++
      " [row1=[a=1, [2]]] -5 or less").toList ∧
    p.Expressible ∧ trim first = first ∧ dashed first = false ∧
      readHeader "param" (p.headerText first) true = .ok (p, first) := by
  intro p first
  have row : ExpressibleType "\x7bid: number\x7d" :=
    ⟨⟨by decide, by decide⟩, by decide +kernel, by decide +kernel, by decide⟩
  have map : ExpressibleType "Map<string|number, () => void>" :=
    ⟨⟨by decide, by decide⟩, by decide +kernel, by decide +kernel, by decide⟩
  have value : Trimmed "[a=1, [2]]" ∧ Balanced '[' ']' "[a=1, [2]]".toList :=
    ⟨⟨by decide, by decide⟩, by decide +kernel⟩
  have expressible : p.Expressible := by
    refine ⟨by simp [p, row, map], by decide, by decide, ?_⟩
    intro _ given
    cases given
    exact ⟨rfl, value⟩
  exact ⟨by decide +kernel, expressible, by decide, by decide,
    readHeader_headerText "param" p expressible first (by decide) (by decide)⟩

end Param

end Commentary
