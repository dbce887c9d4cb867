import Commentary.Proofs.ConfigValues
import Commentary.Proofs.PatternLists
import Commentary.Proofs.Quoting

/-! The complaint that the source directory is missing. It is told from others by the words of the
message, and a message may quote a text of the value. Of all that can be wrong with a value only a
text in the place of the words of a page is quoted, so that is the one way in which the complaint
can be made about a value that names a directory. -/
namespace Commentary

open Value

namespace Config

/-- Whether a text holds the words of the complaint. -/
def Speaks (text : String) : Prop :=
  missingText.toList <:+: text.toList

instance (text : String) : Decidable (Speaks text) :=
  decidable_of_iff _ Text.occursIn_iff

section Messages

variable {text wanted : String} {v : Value} {m : Mismatch}

theorem ofMismatch_speaking (speaks : Speaks m.message) : ofMismatch m = .missingSourceDir :=
  if_pos (Text.occursIn_iff.2 speaks)

theorem ofMismatch_silent (silent : ¬ Speaks m.message) :
    ofMismatch m = .invalidValue m.message :=
  if_neg (mt Text.occursIn_iff.1 silent)

/- Nothing but the name of the field has this letter in it. -/
theorem silent_of_not_mem (absent : 'D' ∉ text.toList) : ¬ Speaks text := by
  have letter : 'D' ∈ missingText.toList := by decide
  exact fun speaks => absent (speaks.subset letter)

theorem not_mem_digits (n : Nat) : 'D' ∉ Nat.toDigits 10 n := by
  intro found
  cases Text.isEscapeSign_digit (by decide) (by decide) found

theorem not_mem_toString (n : Int) : 'D' ∉ (toString n).toList := by
  cases n with
  | ofNat n =>
    have shape : toString (Int.ofNat n) = String.ofList (Nat.toDigits 10 n) := rfl
    rw [shape, String.toList_ofList]
    exact not_mem_digits n
  | negSucc n =>
    have shape : toString (Int.negSucc n) = "-" ++ String.ofList (Nat.toDigits 10 (n + 1)) := rfl
    rw [shape, String.toList_append, String.toList_ofList]
    simp [not_mem_digits]

theorem not_mem_positional (digits : Nat) (place : Int) :
    'D' ∉ Decimal.positional digits place := by
  unfold Decimal.positional
  split <;> simp [not_mem_digits, List.mem_replicate]

theorem not_mem_decimal (mantissa : Int) (places : Nat) :
    'D' ∉ (Decimal.text mantissa places).toList := by
  have signed {list : List Char} (rest : 'D' ∉ list) :
      'D' ∉ (if mantissa < 0 then ['-'] else []) ++ list := by
    split <;> simp [rest]
  show 'D' ∉ (if Decimal.Binary.isZero _ then String.ofList (_ ++ ['0', '.', '0'])
    else String.ofList (_ ++ Decimal.positional _ _)).toList
  split
  · rw [String.toList_ofList]
    exact signed (by decide)
  · rw [String.toList_ofList]
    exact signed (not_mem_positional _ _)

theorem speaks_expected (found wanted : String) :
    Speaks (found ++ ", expected " ++ wanted) ↔
      Speaks found ∨ Speaks (" expected " ++ wanted) := by
  have comma : ',' ∉ missingText.toList := by decide
  have shape : (found ++ ", expected " ++ wanted).toList =
      found.toList ++ ',' :: (" expected " ++ wanted).toList := by
    simp
  unfold Speaks
  rw [shape, Text.infix_append_cons comma]

theorem speaks_quoted (s : String) :
    Speaks ("invalid type: " ++ ("string " ++ Text.quoted s)) ↔ Speaks s := by
  have phrase : missingText.toList = 'm' :: "issing field `sourceDir`".toList := by decide
  have plain : missingText.toList.all Text.isPlain = true := by decide
  have start : 'm' ∉ "invalid type: string ".toList := by decide
  have shape : ("invalid type: " ++ ("string " ++ Text.quoted s)).toList =
      "invalid type: string ".toList ++ (Text.quoted s).toList := by
    rw [← String.append_assoc, String.toList_append]
    rfl
  unfold Speaks
  rw [shape, phrase, Text.infix_append_of_start start]
  exact Text.infix_quoted (phrase ▸ List.all_eq_true.1 plain) (by decide)

theorem not_mem_append {a b : String} (first : 'D' ∉ a.toList) (second : 'D' ∉ b.toList) :
    'D' ∉ (a ++ b).toList := by
  rw [String.toList_append, List.mem_append]
  exact fun inside => inside.elim first second

/- A single character cannot be the two letters that the rest of the message lacks. -/
theorem silent_character (c : Char) : ¬ Speaks ("invalid type: " ++ (Value.char c).describe) := by
  intro speaks
  have described : (Value.char c).describe = "character `" ++ String.singleton c ++ "`" := rfl
  have shape : ("invalid type: " ++ (Value.char c).describe).toList =
      "invalid type: character `".toList ++ c :: ['`'] := by
    rw [described, String.toList_append, String.toList_append, String.toList_append,
      String.toList_singleton]
    rfl
  have quoted {x : Char} (letter : x ∈ missingText.toList)
      (before : x ∉ "invalid type: character `".toList) (behind : x ∉ ['`']) : x = c := by
    have inside := speaks.subset letter
    rw [shape, List.mem_append, List.mem_cons] at inside
    exact (inside.resolve_left before).resolve_right behind
  have first : 'D' = c := quoted (by decide) (by decide) (by decide)
  have second : 'u' = c := quoted (by decide) (by decide) (by decide)
  exact absurd (first.trans second.symm) (by decide)

theorem silent_describe (other : ∀ s, v ≠ .text s) :
    ¬ Speaks ("invalid type: " ++ v.describe) := by
  have number {kind digits : String} (lead : 'D' ∉ kind.toList) (rest : 'D' ∉ digits.toList) :
      ¬ Speaks ("invalid type: " ++ (kind ++ digits ++ "`")) :=
    silent_of_not_mem (not_mem_append (by decide)
      (not_mem_append (not_mem_append lead rest) (by decide)))
  cases v with
  | null => decide
  | bool b => cases b <;> decide
  | int n =>
    have shape : (Value.int n).describe = if isWord n then "integer `" ++ toString n ++ "`"
        else "floating point `" ++ Decimal.text n 0 ++ "`" := rfl
    rw [shape]
    split
    · exact number (by decide) (not_mem_toString n)
    · exact number (by decide) (not_mem_decimal n 0)
  | decimal mantissa places =>
    have shape : (Value.decimal mantissa places).describe =
        "floating point `" ++ Decimal.text mantissa places ++ "`" := rfl
    rw [shape]
    exact number (by decide) (not_mem_decimal mantissa places)
  | nonFinite => decide
  | char c => exact silent_character c
  | text s => exact absurd rfl (other s)
  | list items => exact (by decide : ¬ Speaks "invalid type: sequence")
  | fields entries => exact (by decide : ¬ Speaks "invalid type: map")

theorem speaks_kind (quiet : ¬ Speaks (" expected " ++ wanted)) (v : Value) :
    Speaks (Mismatch.kind v.describe wanted).message ↔ ∃ s, v = .text s ∧ Speaks s := by
  have whole := speaks_expected ("invalid type: " ++ v.describe) wanted
  refine whole.trans ⟨?_, ?_⟩
  · rintro (speaks | loud)
    · by_cases quoted : ∃ s, v = .text s
      · obtain ⟨s, rfl⟩ := quoted
        exact ⟨s, rfl, (speaks_quoted s).1 speaks⟩
      · exact absurd speaks (silent_describe fun s same => quoted ⟨s, same⟩)
    · exact absurd loud quiet
  · rintro ⟨s, rfl, speaks⟩
    exact .inl ((speaks_quoted s).2 speaks)

theorem silent_length (n : Nat) (quiet : ¬ Speaks (" expected " ++ wanted)) :
    ¬ Speaks (Mismatch.length n wanted).message := by
  have digits : ¬ Speaks ("invalid length " ++ toString n) := by
    apply silent_of_not_mem
    simp [not_mem_digits]
  intro speaks
  exact ((speaks_expected ("invalid length " ++ toString n) wanted).1 speaks).elim digits quiet

end Messages

/-- What is true of the reason why a value does not fit, if it does not. -/
def OnError {α : Type} (P : Mismatch → Prop) (x : Except Mismatch α) : Prop :=
  ∀ m, x = .error m → P m

def Silent (m : Mismatch) : Prop :=
  ¬ Speaks m.message

instance (m : Mismatch) : Decidable (Silent m) :=
  inferInstanceAs (Decidable (¬ _))

section Errors

variable {α β : Type} {P Q : Mismatch → Prop} {x : Except Mismatch α}

theorem onError_ok (a : α) : OnError P (.ok a) :=
  nofun

theorem onError_error {m : Mismatch} (holds : P m) : OnError P (.error m : Except Mismatch α) := by
  intro _ same
  cases same
  exact holds

theorem OnError.mono (first : OnError P x) (weaker : ∀ m, P m → Q m) : OnError Q x :=
  fun m failed => weaker m (first m failed)

theorem OnError.bind {next : α → Except Mismatch β} (first : OnError P x)
    (later : ∀ a, x = .ok a → OnError P (next a)) : OnError P (x >>= next) := by
  cases x with
  | error m => exact onError_error (first m rfl)
  | ok a => exact later a rfl

theorem OnError.map {f : α → β} (first : OnError P x) : OnError P (x.map f) := by
  cases x with
  | error m => exact onError_error (first m rfl)
  | ok a => exact onError_ok (f a)

theorem OnError.mapM {items : List α} {f : α → Except Mismatch β} (each : ∀ a, OnError P (f a)) :
    OnError P (items.mapM f) := by
  induction items with
  | nil => exact onError_ok []
  | cons a rest ih =>
    rw [List.mapM_cons]
    exact (each a).bind fun b _ => ih.bind fun bs _ => onError_ok (b :: bs)

theorem OnError.foldlM {items : List α} {f : β → α → Except Mismatch β}
    (each : ∀ b a, OnError P (f b a)) (start : β) : OnError P (items.foldlM f start) := by
  induction items generalizing start with
  | nil => exact onError_ok start
  | cons a rest ih =>
    rw [List.foldlM_cons]
    exact (each start a).bind fun b _ => ih b

theorem onError_readOr {read : Value → Except Mismatch α} {fallback : α} {v? : Option Value}
    (each : ∀ v, v? = some v → OnError P (read v)) : OnError P (readOr read fallback v?) := by
  cases v? with
  | none => exact onError_ok fallback
  | some v => exact each v rfl

end Errors

section Readers

variable {wanted : String} {entries : List (String × Value)}

/- Where a text is wanted, a text is not quoted. -/
theorem silent_asText (quiet : ¬ Speaks (" expected " ++ wanted)) (v : Value) :
    OnError Silent (asText wanted v) := by
  have other (fits : ∀ s, v ≠ .text s) : Silent (.kind v.describe wanted) := by
    intro speaks
    obtain ⟨s, same, -⟩ := (speaks_kind quiet v).1 speaks
    exact fits s same
  cases v with
  | text s => exact onError_ok s
  | char c => exact onError_ok _
  | null | bool | int | decimal | nonFinite | list | fields => exact onError_error (other nofun)

theorem silent_word? (v : Value) : OnError Silent (LocaleOverrides.word? v) := by
  have read : OnError Silent ((asText "a string" v).map some) :=
    (silent_asText (by decide) v).map
  cases v with
  | null => exact onError_ok none
  | bool | int | decimal | nonFinite | char | text | list | fields => exact read

theorem silent_choose (entries : List (String × Value)) (chosen : LocaleOverrides.Chosen)
    (spelling : String × LocaleOverrides.Word) :
    OnError Silent (LocaleOverrides.choose entries chosen spelling) := by
  have twice (w : LocaleOverrides.Word) : Silent (.duplicate w.name) := by
    cases w <;> decide
  unfold LocaleOverrides.choose
  split
  · exact onError_ok chosen
  · split
    · exact onError_error (twice _)
    · exact (silent_word? _).map

/- Words may also be something else than a text, but then nothing of them is quoted. -/
theorem onError_words (v : Value) :
    OnError (fun m => Speaks m.message ↔ ∃ s, v = .text s ∧ Speaks s)
      (LocaleOverrides.ofValue true v) := by
  have other (fits : ∀ s, v ≠ .text s) (m : Mismatch) (silent : Silent m) :
      Speaks m.message ↔ ∃ s, v = .text s ∧ Speaks s := by
    refine ⟨fun speaks => absurd speaks silent, ?_⟩
    rintro ⟨s, same, -⟩
    exact absurd same (fits s)
  cases v with
  | fields entries =>
    exact ((OnError.foldlM (silent_choose entries) []).map).mono (other nofun)
  | list items =>
    have long : Silent (.length items.length "fewer elements in array") :=
      silent_length items.length (by decide)
    have read : OnError Silent (LocaleOverrides.ofValue true (.list items)) := by
      refine (OnError.mapM silent_word?).bind fun texts _ => ?_
      split
      · exact onError_error long
      · exact onError_ok _
    exact read.mono (other nofun)
  | null | bool | int | decimal | nonFinite | char | text =>
    exact onError_error (speaks_kind (by decide) _)

theorem silent_patterns (v : Value) : OnError Silent (Patterns.ofValue v) := by
  have variant : Silent (.noVariant "MatchPatterns") := by decide
  cases v with
  | null => exact onError_ok _
  | text s => exact onError_ok _
  | list items =>
    have read : OnError Silent (items.mapM (asText "a string")) :=
      OnError.mapM (silent_asText (by decide))
    rw [Patterns.ofValue]
    split
    · exact read.map
    · exact onError_error variant
  | bool | int | decimal | nonFinite | char | fields => exact onError_error variant

theorem silent_sourceDir? (v : Value) : OnError Silent (sourceDir? v) :=
  silent_asText (by decide) v

theorem silent_namedSourceDir (entries : List (String × Value)) :
    OnError Silent (namedSourceDir entries) := by
  have twice : Silent (.duplicate "sourceDir") := by decide
  refine (onError_readOr fun v _ => (silent_sourceDir? v).map).bind fun main _ => ?_
  split
  · exact onError_error twice
  · exact (silent_sourceDir? _).map
  · exact onError_ok _

end Readers

/-- What a value gives as its source directory, under either name or in the first place of a
list. -/
inductive Names : Value → Value → Prop
  | main {entries : List (String × Value)} {d : Value}
    (found : entries.lookup "sourceDir" = some d) : Names (.fields entries) d
  | other {entries : List (String × Value)} {d : Value}
    (found : entries.lookup "source_dir" = some d) : Names (.fields entries) d
  | first {d : Value} {more : List Value} : Names (.list (d :: more)) d

/-- A text with the words of the complaint in it stands where no text belongs: in the place of the
whole value, or of the words of a page. In a list what comes before is read first. -/
inductive Misread : Value → Prop
  | whole {s : String} (speaks : Speaks s) : Misread (.text s)
  | named {entries : List (String × Value)} {s : String}
    (found : entries.lookup "i18n" = some (.text s)) (speaks : Speaks s) : Misread (.fields entries)
  | listed {d p : Value} {dir s : String} {patterns : Patterns} {more : List Value}
    (dirRead : sourceDir? d = .ok dir) (patternsRead : Patterns.ofValue p = .ok patterns)
    (speaks : Speaks s) : Misread (.list (d :: p :: .text s :: more))

section Reading

variable {v d : Value} {entries : List (String × Value)} {dir : String} {c : Config} {m : Mismatch}

theorem words_misread {s : String} (speaks : Speaks s) :
    ∃ m, LocaleOverrides.ofValue true (.text s) = .error m ∧ Speaks m.message :=
  ⟨_, rfl, (speaks_kind (by decide) (.text s)).2 ⟨s, rfl, speaks⟩⟩

theorem Misread.decode_eq (misread : Misread v) : ∃ m, decode v = .error m ∧ Speaks m.message := by
  cases misread with
  | @whole s speaks => exact ⟨_, rfl, (speaks_kind (by decide) (.text s)).2 ⟨s, rfl, speaks⟩⟩
  | @named entries s found speaks =>
    obtain ⟨m, failed, spoken⟩ := words_misread speaks
    refine ⟨m, ?_, spoken⟩
    show ofFields entries = _
    rw [ofFields, found, readOr, failed]
    rfl
  | @listed d p dir s patterns more dirRead patternsRead speaks =>
    obtain ⟨m, failed, spoken⟩ := words_misread speaks
    refine ⟨m, ?_, spoken⟩
    show (sourceDir? d >>= fun _ => Patterns.ofValue p >>= fun _ =>
      LocaleOverrides.ofValue true (.text s) >>= fun _ => _) = _
    rw [dirRead, patternsRead, failed]
    rfl

theorem sourceDir?_eq_empty (read : sourceDir? d = .ok "") : d = .text "" := by
  cases d with
  | text s =>
    cases read
    rfl
  | char c =>
    have single : String.singleton c = "" := Except.ok.inj read
    have length := congrArg (fun s => s.toList.length) single
    simp at length
  | null | bool | int | decimal | nonFinite | list | fields => cases read

theorem names_fields : Names (.fields entries) d ↔
    entries.lookup "sourceDir" = some d ∨ entries.lookup "source_dir" = some d := by
  constructor
  · rintro (found | found)
    · exact .inl found
    · exact .inr found
  · rintro (found | found)
    · exact .main found
    · exact .other found

theorem some_of_map {x : Except Mismatch String} {dir? : Option String}
    (made : x.map some = .ok dir?) : ∃ dir, x = .ok dir ∧ dir? = some dir := by
  cases x with
  | error m => cases made
  | ok dir =>
    cases made
    exact ⟨dir, rfl, rfl⟩

/- With both names the value is turned down, so a directory that was read is the only one. -/
theorem namedSourceDir_eq_ok {dir? : Option String} (found : namedSourceDir entries = .ok dir?) :
    (dir? = none ∧ ∀ d, ¬ Names (.fields entries) d) ∨
      ∃ d dir, dir? = some dir ∧ (∀ e, Names (.fields entries) e ↔ e = d) ∧
        sourceDir? d = .ok dir := by
  obtain ⟨first, mainRead, behind⟩ := parts_of_bind found
  cases main : entries.lookup "sourceDir" with
  | none =>
    rw [main] at mainRead
    cases mainRead
    cases other : entries.lookup "source_dir" with
    | none =>
      rw [other] at behind
      cases behind
      exact .inl ⟨rfl, by simp [names_fields, main, other]⟩
    | some d =>
      rw [other] at behind
      obtain ⟨dir, given, rfl⟩ := some_of_map behind
      exact .inr ⟨d, dir, rfl, by simp [names_fields, main, other, eq_comm], given⟩
  | some d =>
    rw [main] at mainRead
    obtain ⟨dir, given, rfl⟩ := some_of_map mainRead
    cases other : entries.lookup "source_dir" with
    | none =>
      rw [other] at behind
      cases behind
      exact .inr ⟨d, dir, rfl, by simp [names_fields, main, other, eq_comm], given⟩
    | some d' =>
      rw [other] at behind
      cases behind

theorem names_of_decode (read : decode v = .ok c) :
    ∃ d, (∀ e, Names v e ↔ e = d) ∧ sourceDir? d = .ok c.sourceDir := by
  cases v with
  | fields entries =>
    obtain ⟨words, _, behind⟩ := parts_of_bind read
    obtain ⟨patterns, _, behind⟩ := parts_of_bind behind
    obtain ⟨dir?, named, made⟩ := parts_of_bind behind
    rcases namedSourceDir_eq_ok named with ⟨rfl, -⟩ | ⟨d, dir, rfl, only, given⟩
    · cases made
    · cases made
      exact ⟨d, only, given⟩
  | list items =>
    cases items with
    | nil => cases read
    | cons d more =>
      obtain ⟨dir, given, behind⟩ := parts_of_bind read
      obtain ⟨patterns, _, behind⟩ := parts_of_bind behind
      obtain ⟨words, _, made⟩ := parts_of_bind behind
      have same : c.sourceDir = dir := by
        split at made
        · cases made
        · cases made
          rfl
      refine ⟨d, fun e => ⟨fun names => ?_, ?_⟩, same ▸ given⟩
      · cases names
        rfl
      · rintro rfl
        exact .first
  | null | bool | int | decimal | nonFinite | char | text => cases read

/- The cases follow the order in which the fields are read. Each reader is silent or quotes what
makes the value a misread one. -/
theorem onError_decode (v : Value) :
    OnError (fun m => Speaks m.message → Misread v ∨ ∀ d, ¬ Names v d) (decode v) := by
  have quiet {m : Mismatch} (silent : Silent m) :
      Speaks m.message → Misread v ∨ ∀ d, ¬ Names v d :=
    fun speaks => absurd speaks silent
  cases v with
  | fields entries =>
    refine OnError.bind (onError_readOr fun w found => ?_) fun words _ => ?_
    · refine (onError_words w).mono fun m spoken speaks => ?_
      obtain ⟨s, rfl, inside⟩ := spoken.1 speaks
      exact .inl (.named found inside)
    refine OnError.bind (onError_readOr fun p _ => ?_) fun patterns _ => ?_
    · exact (silent_patterns p).mono fun m => quiet
    refine OnError.bind ((silent_namedSourceDir entries).mono fun m => quiet) fun dir? named => ?_
    rcases namedSourceDir_eq_ok named with ⟨rfl, nothing⟩ | ⟨d, dir, rfl, -, -⟩
    · exact onError_error fun _ => .inr nothing
    · exact onError_ok _
  | list items =>
    cases items with
    | nil => exact onError_error fun _ => .inr nofun
    | cons d more =>
      refine OnError.bind ((silent_sourceDir? d).mono fun m => quiet) fun dir dirRead => ?_
      refine OnError.bind (onError_readOr fun p _ => (silent_patterns p).mono fun m => quiet)
        fun patterns patternsRead => ?_
      refine OnError.bind (onError_readOr fun w found => ?_) fun words _ => ?_
      · refine (onError_words w).mono fun m spoken speaks => ?_
        obtain ⟨s, rfl, inside⟩ := spoken.1 speaks
        rcases more with _ | ⟨p, _ | ⟨w, rest⟩⟩
        · cases found
        · cases found
        · cases found
          exact .inl (.listed dirRead patternsRead inside)
      · split
        · exact onError_error (quiet (silent_length _ (by decide)))
        · exact onError_ok _
  | null | bool | int | decimal | nonFinite | char | text =>
    exact onError_error fun _ => .inr nofun

theorem ofValue_eq_error {e : Error} (failed : ofValue v = .error e) :
    (∃ m, decode v = .error m ∧ e = ofMismatch m) ∨
      ∃ c, decode v = .ok c ∧ c.validate = .error e := by
  cases read : decode v with
  | error m =>
    rw [ofValue, read] at failed
    exact .inl ⟨m, rfl, (Except.error.inj failed).symm⟩
  | ok c =>
    rw [ofValue_eq_validate read] at failed
    refine .inr ⟨c, rfl, ?_⟩
    cases checked : c.validate with
    | error e' =>
      rw [checked] at failed
      cases failed
      rfl
    | ok _ =>
      rw [checked] at failed
      cases failed

end Reading

/-- The errors that are about something else than the source directory. -/
inductive Elsewhere : Error → Prop
  | value (details : String) : Elsewhere (.invalidValue details)
  | pattern (pattern details : String) : Elsewhere (.invalidPattern pattern details)

/-- The complaint means what it says: it is made only about a value without a source directory or
with an empty one, and about any other value something else is said. -/
structure Honest (v : Value) : Prop where
  missing : ofValue v = .error .missingSourceDir → (∀ d, ¬ Names v d) ∨ Names v (.text "")
  otherwise : ∀ d, Names v d → d ≠ .text "" → ∀ e, ofValue v = .error e → Elsewhere e

section Complaint

variable {v : Value}

theorem Misread.ofValue_eq (misread : Misread v) : ofValue v = .error .missingSourceDir := by
  obtain ⟨m, failed, speaks⟩ := misread.decode_eq
  rw [ofValue, failed]
  exact congrArg Except.error (ofMismatch_speaking speaks)

/- What is said about a value that is not misread and names a directory. -/
theorem complaint_of_named {d : Value} {e : Error} (fine : ¬ Misread v) (names : Names v d)
    (other : d ≠ .text "") (failed : ofValue v = .error e) : Elsewhere e := by
  rcases ofValue_eq_error failed with ⟨m, unread, rfl⟩ | ⟨c, read, invalid⟩
  · have silent : Silent m := by
      intro speaks
      rcases onError_decode v m unread speaks with misread | nothing
      · exact fine misread
      · exact nothing d names
    rw [ofMismatch_silent silent]
    exact .value m.message
  · obtain ⟨d', only, given⟩ := names_of_decode read
    have named : c.sourceDir ≠ "" := by
      intro empty
      rw [empty, ← (only d).1 names] at given
      exact other (sourceDir?_eq_empty given)
    obtain ⟨_, pattern, _, why, _, _, _, rfl⟩ := (validate_eq_error_iff named).1 invalid
    exact .pattern pattern why.message

end Complaint

/-- A missing source directory is reported only where none is named or an empty one, with one
exception: a value that names another one is told the same if it has the words of the complaint in a
text where the words of a page belong. Whatever else is wrong with a value, at any place, the
complaint means what it says. -/
theorem honest_iff_not_misread (v : Value) :
    Honest v ↔ ¬ (Misread v ∧ ∃ d, Names v d ∧ d ≠ .text "") := by
  constructor
  · rintro honest ⟨misread, d, names, other⟩
    exact nomatch honest.otherwise d names other _ misread.ofValue_eq
  · intro fine
    have said {d : Value} {e : Error} (names : Names v d) (other : d ≠ .text "")
        (failed : ofValue v = .error e) : Elsewhere e :=
      complaint_of_named (fun misread => fine ⟨misread, d, names, other⟩) names other failed
    refine ⟨fun missing => ?_, fun d names other e failed => said names other failed⟩
    by_cases named : ∃ d, Names v d
    · obtain ⟨d, names⟩ := named
      by_cases empty : d = .text ""
      · exact .inr (empty ▸ names)
      · exact nomatch said names empty missing
    · exact .inl fun d names => named ⟨d, names⟩

/-- A value that names a directory and has a text in the place of the words. -/
theorem quoted_words_taken_for_missing :
    let v := Value.fields [("i18n", .text "missing field `sourceDir`"), ("sourceDir", .text "src")]
    Names v (.text "src") ∧ ofValue v = .error .missingSourceDir ∧ ¬ Honest v := by
  intro v
  have names : Names v (.text "src") := .main rfl
  have misread : Misread v := .named rfl (by decide)
  refine ⟨names, misread.ofValue_eq, fun honest => ?_⟩
  exact nomatch honest.otherwise _ names (by simp) _ misread.ofValue_eq

end Config

end Commentary
