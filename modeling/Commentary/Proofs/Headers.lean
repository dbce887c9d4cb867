import Commentary.Proofs.Brackets
import Commentary.Proofs.Trimming

/-! Which headers can be read, and what is taken from them. A header is made of tokens: braces with
the types, then brackets or a word with the name. Everything behind the last of them describes. -/
namespace Commentary.Comment

open Text

def inside (token : List Char) : List Char :=
  token.tail.dropLast

def behind (token text : List Char) : List Char :=
  trimStart (text.drop token.length)

def firstWord (text : List Char) : List Char :=
  text.takeWhile fun c => !isBlank c

/-- A dash leads the text and stands alone. -/
def dashed (text : List Char) : Bool :=
  text.head? == some '-' && text.tail.head?.all isBlank

/-- A text trimmed and without the dash that leads it. -/
def description (text : List Char) : List Char :=
  if dashed (trim text) then trim ((trim text).drop 1) else trim text

/-- The types at the start of a text, with the braces they stand in. -/
inductive TypeToken (text : List Char) : List Char → List String → Prop
  | missing (other : text.head? ≠ some '{') : TypeToken text [] []
  | braces {token : List Char} (starts : text.head? = some '{')
      (closed : token? '{' '}' text = some token) (filled : isBlankLine (inside token) = false) :
      TypeToken text token (splitUnion (trim (inside token)))

inductive FlawedTypes (text : List Char) : Prop
  | unclosed (starts : text.head? = some '{') (never : token? '{' '}' text = none)
  | blank {token : List Char} (starts : text.head? = some '{')
      (closed : token? '{' '}' text = some token) (blank : isBlankLine (inside token) = true)

/-- The name at the start of a text, with the brackets or the word it stands in. -/
inductive NameToken (text : List Char) : List Char → Param → Prop
  | brackets {token : List Char} (starts : text.head? = some '[')
      (closed : token? '[' ']' text = some token)
      (filled : isBlankLine ((inside token).takeWhile (· != '=')) = false) :
      NameToken text token {
        name := String.ofList (trim ((inside token).takeWhile (· != '=')))
        optional := true
        default := nonBlank (((inside token).dropWhile (· != '=')).drop 1) }
  | word (other : text.head? ≠ some '[') (something : firstWord text ≠ [])
      (name : (firstWord text).all isNameChar = true) :
      NameToken text (firstWord text) { name := String.ofList (firstWord text) }
  | missing (other : text.head? ≠ some '[')
      (no_name : firstWord text = [] ∨ (firstWord text).all isNameChar = false) :
      NameToken text [] {}

inductive FlawedName (text : List Char) : Prop
  | unclosed (starts : text.head? = some '[') (never : token? '[' ']' text = none)
  | blank {token : List Char} (starts : text.head? = some '[')
      (closed : token? '[' ']' text = some token)
      (blank : isBlankLine ((inside token).takeWhile (· != '=')) = true)

/-- A header as a sequence of tokens, with a description behind the last of them. -/
inductive Header (text : List Char) : Bool → Param → List Char → Prop
  | named {type name : List Char} {types : List String} {item : Param}
      (first : TypeToken text type types) (second : NameToken (behind type text) name item) :
      Header text true { item with types := types }
        (description ((behind type text).drop name.length))
  | unnamed {type : List Char} {types : List String} (first : TypeToken text type types) :
      Header text false { types := types } (description (text.drop type.length))

inductive FlawedHeader (text : List Char) (named : Bool) : Prop
  | types (flaw : FlawedTypes text)
  | name {type : List Char} {types : List String} (asked : named = true)
      (first : TypeToken text type types) (flaw : FlawedName (behind type text))

theorem head?_trimEnd_blank (text : List Char) :
    (trimEnd text).head?.all isBlank = text.head?.all isBlank := by
  cases text with
  | nil => rfl
  | cons c rest =>
    rw [trimEnd_cons]
    split
    · rename_i blank
      exact blank.1.symm
    · rfl

theorem undash_trimStart (text : List Char) : undash (trimStart text) = description text := by
  have stripped := trimStart_trimStart text
  rw [description, ← trim_trimStart]
  generalize trimStart text = text at *
  have ended : trim text = trimEnd text := by rw [trim, stripped]
  unfold undash
  split
  · rename_i rest
    have visible : ¬ (isBlank '-' = true ∧ trimEnd rest = []) := fun h => absurd h.1 (by decide)
    have alone : (rest.isEmpty || rest.head?.any isBlank) = dashed (trim ('-' :: rest)) := by
      rw [ended, trimEnd_cons, if_neg visible]
      simp only [dashed, List.head?_cons, List.tail_cons, head?_trimEnd_blank]
      cases rest <;> rfl
    have dropped : trim ((trim ('-' :: rest)).drop 1) = trim rest := by
      rw [ended, trimEnd_cons, if_neg visible]
      exact trim_trimEnd rest
    rw [alone, dropped]
  · rename_i other
    have plain : dashed (trim text) = false := by
      rw [ended]
      cases text with
      | nil => rfl
      | cons c rest =>
        have notDash : c ≠ '-' := fun dash => other rest (by rw [dash])
        rw [trimEnd_cons]
        split <;> simp [dashed, notDash]
    rw [plain]
    rfl

/- The scan behind an opening bracket in terms of the token that the bracket starts. -/
theorem spanBalanced_eq_token {opening closing : Char} (distinct : opening ≠ closing)
    (text : List Char) :
    spanBalanced opening closing 0 text = (token? opening closing (opening :: text)).map
      fun token => (inside token, (opening :: text).drop token.length) := by
  rw [token?_cons distinct, Option.map_map]
  cases found : spanBalanced opening closing 0 text with
  | none => rfl
  | some pair =>
    obtain ⟨inner, rest⟩ := pair
    have whole := (spanBalanced_eq_some distinct found).1
    simp [inside, whole]

/- Both kinds of brackets are read alike: something is wrong with them, or they have a value. -/
section Unless

variable {α β : Type} {found : Option α} {wrong : α → Bool} {value : α → β}

theorem bind_unless_eq_none_iff :
    (found.bind fun a => if wrong a then none else some (value a)) = none ↔
      found = none ∨ ∃ a, found = some a ∧ wrong a = true := by
  cases found <;> simp

theorem bind_unless_eq_some_iff {b : β} :
    (found.bind fun a => if wrong a then none else some (value a)) = some b ↔
      ∃ a, found = some a ∧ wrong a = false ∧ value a = b := by
  cases found <;> simp

end Unless

section Types

variable {text rest : List Char} {types : List String}

theorem readTypes_of_other (other : text.head? ≠ some '{') : readTypes text = some ([], text) := by
  unfold readTypes
  split
  · exact absurd rfl other
  · rfl

theorem readTypes_of_braces (starts : text.head? = some '{') :
    readTypes text = (token? '{' '}' text).bind fun token =>
      if isBlankLine (inside token) then none
      else some (splitUnion (trim (inside token)), behind token text) := by
  obtain ⟨tail, rfl⟩ := List.head?_eq_some_iff.1 starts
  rw [readTypes, spanBalanced_eq_token (by decide)]
  cases token? '{' '}' ('{' :: tail) <;> rfl

theorem readTypes_eq_some_iff (stripped : trimStart text = text) :
    readTypes text = some (types, rest) ↔
      ∃ token, TypeToken text token types ∧ rest = behind token text := by
  by_cases starts : text.head? = some '{'
  · rw [readTypes_of_braces starts, bind_unless_eq_some_iff]
    constructor
    · rintro ⟨token, closed, filled, same⟩
      cases same
      exact ⟨token, .braces starts closed filled, rfl⟩
    · rintro ⟨token, first, rfl⟩
      cases first with
      | missing other => exact absurd starts other
      | braces _ closed filled => exact ⟨token, closed, filled, rfl⟩
  · have whole : behind [] text = text := stripped
    rw [readTypes_of_other starts]
    constructor
    · intro read
      cases read
      exact ⟨[], .missing starts, whole.symm⟩
    · rintro ⟨token, first, rfl⟩
      cases first with
      | missing => rw [whole]
      | braces here => exact absurd here starts

theorem readTypes_eq_none_iff : readTypes text = none ↔ FlawedTypes text := by
  constructor
  · intro failed
    by_cases starts : text.head? = some '{'
    · rw [readTypes_of_braces starts, bind_unless_eq_none_iff] at failed
      rcases failed with never | ⟨token, closed, blank⟩
      · exact .unclosed starts never
      · exact .blank starts closed blank
    · rw [readTypes_of_other starts] at failed
      cases failed
  · rintro (⟨starts, never⟩ | ⟨starts, closed, blank⟩)
    · rw [readTypes_of_braces starts, bind_unless_eq_none_iff]
      exact .inl never
    · rw [readTypes_of_braces starts, bind_unless_eq_none_iff]
      exact .inr ⟨_, closed, blank⟩

end Types

section Name

variable {text rest : List Char} {item : Param}

theorem readName_of_other (other : text.head? ≠ some '[') :
    readName text =
      if firstWord text ≠ [] ∧ (firstWord text).all isNameChar = true then
        some ({ name := String.ofList (firstWord text) }, behind (firstWord text) text)
      else some ({}, text) := by
  unfold readName
  split
  · exact absurd rfl other
  · simp [firstWord, behind]

theorem readName_of_brackets (starts : text.head? = some '[') :
    readName text = (token? '[' ']' text).bind fun token =>
      if isBlankLine ((inside token).takeWhile (· != '=')) then none
      else some ({
        name := String.ofList (trim ((inside token).takeWhile (· != '=')))
        optional := true
        default := nonBlank (((inside token).dropWhile (· != '=')).drop 1) },
        behind token text) := by
  obtain ⟨tail, rfl⟩ := List.head?_eq_some_iff.1 starts
  rw [readName, spanBalanced_eq_token (by decide)]
  cases token? '[' ']' ('[' :: tail) with
  | none => rfl
  | some token =>
    simp only [Option.map_some, Option.bind_some, readOptional,
      nonBlank_eq ((inside token).takeWhile (· != '='))]
    split <;> rfl

theorem readName_eq_some_iff (stripped : trimStart text = text) :
    readName text = some (item, rest) ↔
      ∃ token, NameToken text token item ∧ rest = behind token text := by
  by_cases starts : text.head? = some '['
  · rw [readName_of_brackets starts, bind_unless_eq_some_iff]
    constructor
    · rintro ⟨token, closed, filled, same⟩
      cases same
      exact ⟨token, .brackets starts closed filled, rfl⟩
    · rintro ⟨token, second, rfl⟩
      cases second with
      | brackets _ closed filled => exact ⟨token, closed, filled, rfl⟩
      | word other => exact absurd starts other
      | missing other => exact absurd starts other
  · have whole : behind [] text = text := stripped
    rw [readName_of_other starts]
    constructor
    · intro read
      split at read
      · rename_i name
        cases read
        exact ⟨_, .word starts name.1 name.2, rfl⟩
      · rename_i no_name
        cases read
        exact ⟨[], .missing starts (by grind), whole.symm⟩
    · rintro ⟨token, second, rfl⟩
      cases second with
      | brackets here => exact absurd here starts
      | word _ something name => rw [if_pos ⟨something, name⟩]
      | missing _ no_name => rw [if_neg (by grind), whole]

theorem readName_eq_none_iff : readName text = none ↔ FlawedName text := by
  constructor
  · intro failed
    by_cases starts : text.head? = some '['
    · rw [readName_of_brackets starts, bind_unless_eq_none_iff] at failed
      rcases failed with never | ⟨token, closed, blank⟩
      · exact .unclosed starts never
      · exact .blank starts closed blank
    · rw [readName_of_other starts] at failed
      split at failed <;> cases failed
  · rintro (⟨starts, never⟩ | ⟨starts, closed, blank⟩)
    · rw [readName_of_brackets starts, bind_unless_eq_none_iff]
      exact .inl never
    · rw [readName_of_brackets starts, bind_unless_eq_none_iff]
      exact .inr ⟨_, closed, blank⟩

end Name

theorem undash_behind (token text : List Char) :
    undash (behind token text) = description (text.drop token.length) :=
  undash_trimStart _

section Header

variable {payload first : List Char} {named : Bool} {item : Param}

theorem readHeader?_eq_some_iff :
    readHeader? payload named = some (item, first) ↔
      Header (trimStart payload) named item first := by
  have stripped := trimStart_trimStart payload
  rw [readHeader?]
  constructor
  · intro read
    split at read
    · cases read
    · rename_i types rest before
      obtain ⟨type, start, rfl⟩ := (readTypes_eq_some_iff stripped).1 before
      cases named with
      | false =>
        cases read
        rw [undash_behind]
        exact .unnamed start
      | true =>
        obtain ⟨⟨p, after⟩, found, same⟩ := Option.map_eq_some_iff.1 read
        cases same
        obtain ⟨name, next, rfl⟩ := (readName_eq_some_iff (trimStart_trimStart _)).1 found
        rw [undash_behind]
        exact .named start next
  · rintro (⟨start, next⟩ | ⟨start⟩)
    · rw [(readTypes_eq_some_iff stripped).2 ⟨_, start, rfl⟩, ← undash_behind]
      exact Option.map_eq_some_iff.2
        ⟨_, (readName_eq_some_iff (trimStart_trimStart _)).2 ⟨_, next, rfl⟩, rfl⟩
    · rw [(readTypes_eq_some_iff stripped).2 ⟨_, start, rfl⟩, ← undash_behind]
      rfl

theorem readHeader?_eq_none_iff :
    readHeader? payload named = none ↔ FlawedHeader (trimStart payload) named := by
  have stripped := trimStart_trimStart payload
  rw [readHeader?]
  constructor
  · intro failed
    split at failed
    · rename_i before
      exact .types (readTypes_eq_none_iff.1 before)
    · rename_i types rest before
      obtain ⟨type, start, rfl⟩ := (readTypes_eq_some_iff stripped).1 before
      cases named with
      | false => cases failed
      | true =>
        exact .name rfl start (readName_eq_none_iff.1 (Option.map_eq_none_iff.1 failed))
  · rintro (flaw | ⟨rfl, start, flaw⟩)
    · rw [readTypes_eq_none_iff.2 flaw]
    · rw [(readTypes_eq_some_iff stripped).2 ⟨_, start, rfl⟩]
      simp [readName_eq_none_iff.2 flaw]

end Header

/-- A header is refused exactly if its braces or brackets are never closed or have nothing in them,
and the refusal names the tag and the header. Any other header is read token by token: braces and
brackets end at the first place where they are closed, and whatever stands behind the last token is
the description. -/
theorem readHeader_exact (tag : String) (payload : List Char) (named : Bool) :
    (∀ cause, readHeader tag payload named = .error cause ↔
      FlawedHeader (trimStart payload) named ∧ cause = ⟨tag, String.ofList (trim payload)⟩) ∧
    ∀ item first, readHeader tag payload named = .ok (item, first) ↔
      Header (trimStart payload) named item first := by
  rw [readHeader]
  cases read : readHeader? payload named with
  | none =>
    have flaw := readHeader?_eq_none_iff.1 read
    refine ⟨fun cause => by simp [flaw, eq_comm], fun item first => ?_⟩
    rw [← readHeader?_eq_some_iff, read]
    simp
  | some header =>
    have sound : ¬ FlawedHeader (trimStart payload) named := by
      rw [← readHeader?_eq_none_iff, read]
      simp
    refine ⟨fun cause => by simp [sound], fun item first => ?_⟩
    rw [← readHeader?_eq_some_iff, read]
    simp

end Commentary.Comment
