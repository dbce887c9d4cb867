import Commentary.Proofs.HeaderText
import Commentary.Text.Quoted
import Commentary.Text.Search

/-! Searching in quoted text. An escape is made of a few signs only and starts with a backslash, so
a piece of plain characters that begins with none of these signs occurs in a quoted text just if it
occurs in the text itself. -/
namespace Commentary.Text

section Pieces

variable {piece front behind text rest : List Char} {c d : Char}

theorem occursIn_iff : occursIn piece text = true ↔ piece <:+: text := by
  induction text with
  | nil => simp [occursIn]
  | cons c rest ih => simp [occursIn, List.infix_cons_iff, ih]

/- A character that the piece does not have cannot stand inside an occurrence. -/
theorem infix_append_cons (absent : c ∉ piece) :
    piece <:+: front ++ c :: behind ↔ piece <:+: front ∨ piece <:+: behind := by
  have stops {start : List Char} (part : start ⊆ piece) (found : start <+: c :: behind) :
      start = [] := by
    rcases List.prefix_cons_iff.1 found with nothing | ⟨more, rfl, -⟩
    · exact nothing
    · exact absurd (part List.mem_cons_self) absent
  constructor
  · intro found
    rcases List.infix_append_iff.1 found with before | later | ⟨start, more, rfl, ends, begins⟩
    · exact .inl before
    · rcases List.infix_cons_iff.1 later with here | later
      · rw [stops (List.Subset.refl _) here]
        exact .inl List.nil_infix
      · exact .inr later
    · rw [stops (List.subset_append_right start more) begins, List.append_nil]
      exact .inl ends.isInfix
  · rintro (before | later)
    · exact before.trans (List.prefix_append front _).isInfix
    · exact later.trans ((List.suffix_cons c behind).trans (List.suffix_append front _)).isInfix

theorem infix_append_of_start (absent : d ∉ front) :
    d :: rest <:+: front ++ text ↔ d :: rest <:+: text := by
  induction front with
  | nil => rfl
  | cons c front ih =>
    have other : d ≠ c := fun same => absent (same ▸ List.mem_cons_self)
    have later : d ∉ front := fun here => absent (List.mem_cons_of_mem c here)
    rw [List.cons_append, List.infix_cons_iff, List.cons_prefix_cons, ih later]
    simp [other]

end Pieces

/-- The signs that escapes are made of. -/
def isEscapeSign (c : Char) : Bool :=
  "\\\"nrtu\x7b\x7d0123456789abcdef".toList.contains c

/-- A character of ASCII that prints and is neither a quote nor a backslash. -/
def isPlain (c : Char) : Bool :=
  32 ≤ c.toNat && c.toNat < 127 && c != '"' && c != '\\'

theorem digit_of_mem_toDigits {base n : Nat} {c : Char} (several : 1 < base)
    (found : c ∈ Nat.toDigits base n) : ∃ k < base, c = Nat.digitChar k := by
  induction n using Nat.strongRecOn with
  | ind n ih =>
    by_cases small : n < base
    · rw [Nat.toDigits_of_lt_base small] at found
      exact ⟨n, small, List.mem_singleton.1 found⟩
    · rw [Nat.toDigits_of_base_le several (by omega)] at found
      rcases List.mem_append.1 found with higher | last
      · exact ih (n / base) (Nat.div_lt_self (by omega) several) higher
      · exact ⟨n % base, Nat.mod_lt n (by omega), List.mem_singleton.1 last⟩

theorem isEscapeSign_digit {base n : Nat} {c : Char} (several : 1 < base) (few : base ≤ 16)
    (found : c ∈ Nat.toDigits base n) : isEscapeSign c = true := by
  have digits : ∀ k < 16, isEscapeSign (Nat.digitChar k) = true := by decide
  obtain ⟨k, below, rfl⟩ := digit_of_mem_toDigits several found
  exact digits k (by omega)

section Escapes

variable {piece text rest : List Char} {c d : Char}

theorem unprintableRanges_above : unprintableRanges.all (fun range => 128 ≤ range.1) = true := by
  decide +kernel

theorem isPrintable_of_isPlain (plain : isPlain c = true) : isPrintable c = true := by
  simp only [isPlain, Bool.and_eq_true, decide_eq_true_eq] at plain
  obtain ⟨⟨⟨low, high⟩, -⟩, -⟩ := plain
  have outside : inRanges unprintableRanges c = false := by
    rw [Bool.eq_false_iff]
    intro member
    obtain ⟨range, listed, above, -⟩ := range_of_inRanges member
    have start := of_decide_eq_true (List.all_eq_true.1 unprintableRanges_above range listed)
    omega
  have here : c.toNat ≠ 127 := by omega
  simp [isPrintable, low, here, outside]

theorem escapeChar_plain (plain : isPlain c = true) : escapeChar c = [c] := by
  have printable := isPrintable_of_isPlain plain
  simp only [isPlain, Bool.and_eq_true, decide_eq_true_eq, bne_iff_ne] at plain
  obtain ⟨⟨⟨low, high⟩, quote⟩, backslash⟩ := plain
  have control {d : Char} (below : d.toNat < 32) : c ≠ d := by
    rintro rfl
    omega
  have feed : c ≠ '\n' := control (by decide)
  have carriage : c ≠ '\r' := control (by decide)
  have tab : c ≠ '\t' := control (by decide)
  have something : c.toNat ≠ 0 := by omega
  simp [escapeChar, quote, backslash, feed, carriage, tab, something, printable]

theorem escapeChar_cases (c : Char) :
    escapeChar c = [c] ∨
      (escapeChar c).head? = some '\\' ∧ ∀ e ∈ escapeChar c, isEscapeSign e = true := by
  rw [← List.all_eq_true]
  unfold escapeChar
  split_ifs
  any_goals exact .inr ⟨rfl, rfl⟩
  · exact .inl rfl
  · refine .inr ⟨rfl, ?_⟩
    have digits : (Nat.toDigits 16 c.toNat).all isEscapeSign = true :=
      List.all_eq_true.2 fun e found => isEscapeSign_digit (by decide) (by decide) found
    rw [List.all_append, List.all_append, digits]
    rfl

theorem prefix_escaped (plain : ∀ d ∈ piece, isPlain d = true) :
    piece <+: text.flatMap escapeChar ↔ piece <+: text := by
  induction piece generalizing text with
  | nil => simp
  | cons d rest ih =>
    obtain ⟨here, later⟩ := List.forall_mem_cons.1 plain
    cases text with
    | nil => rfl
    | cons c more =>
      rw [List.flatMap_cons]
      rcases escapeChar_cases c with same | ⟨opens, -⟩
      · rw [same, List.singleton_append, List.cons_prefix_cons, List.cons_prefix_cons, ih later]
      · -- Neither the escape nor the character it stands for is plain.
        have escape : d ≠ '\\' := by
          rintro rfl
          cases here
        have other : d ≠ c := by
          rintro rfl
          rw [escapeChar_plain here] at opens
          exact escape (Option.some.inj opens)
        obtain ⟨signs, shape⟩ := List.head?_eq_some_iff.1 opens
        rw [shape, List.cons_append, List.cons_prefix_cons, List.cons_prefix_cons]
        simp [escape, other]

theorem infix_escaped (plain : ∀ e ∈ d :: rest, isPlain e = true)
    (start : isEscapeSign d = false) :
    d :: rest <:+: text.flatMap escapeChar ↔ d :: rest <:+: text := by
  induction text with
  | nil => rfl
  | cons c more ih =>
    rcases escapeChar_cases c with same | ⟨-, signs⟩
    · have whole : (c :: more).flatMap escapeChar = c :: more.flatMap escapeChar := by
        rw [List.flatMap_cons, same, List.singleton_append]
      have here : d :: rest <+: (c :: more).flatMap escapeChar ↔ d :: rest <+: c :: more :=
        prefix_escaped plain
      rw [whole] at here ⊢
      rw [List.infix_cons_iff, List.infix_cons_iff, here, ih]
    · have absent : d ∉ escapeChar c := by
        intro found
        rw [signs d found] at start
        cases start
      have other : d ∉ [c] := by
        intro found
        rw [← List.mem_singleton.1 found, escapeChar_plain (plain d List.mem_cons_self)] at absent
        exact absent (List.mem_singleton.2 rfl)
      have skipped : d :: rest <:+: [c] ++ more ↔ d :: rest <:+: more :=
        infix_append_of_start other
      rw [List.flatMap_cons, infix_append_of_start absent, ih]
      exact skipped.symm

theorem infix_quoted {s : String} (plain : ∀ e ∈ d :: rest, isPlain e = true)
    (start : isEscapeSign d = false) :
    d :: rest <:+: (quoted s).toList ↔ d :: rest <:+: s.toList := by
  have quote : '"' ∉ d :: rest := by
    intro found
    cases plain '"' found
  have shape : (quoted s).toList = [] ++ '"' :: (s.toList.flatMap escapeChar ++ '"' :: []) := by
    simp [quoted]
  rw [shape, infix_append_cons quote, infix_append_cons quote, infix_escaped plain start]
  simp

end Escapes

end Commentary.Text
