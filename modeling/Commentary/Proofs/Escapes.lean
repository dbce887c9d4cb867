import Commentary.Page
import Mathlib.Algebra.Ring.Parity
import Mathlib.Data.List.DropRight

/-! Angle brackets in the types of an entry. A backslash is written before each of them and nothing
else is touched, so a bracket is taken for the start of a tag just if the type itself has an odd
number of backslashes before it: the new one then completes a pair. -/
namespace Commentary.Page

def isAngle (c : Char) : Bool :=
  c = '<' || c = '>'

/-- How many backslashes a text ends with. -/
def backslashes (text : List Char) : Nat :=
  (text.rtakeWhile (· == '\\')).length

/-- What holds of the number of backslashes right before each angle bracket. -/
def BeforeAngles (fits : Nat → Prop) (text : List Char) : Prop :=
  ∀ before c behind, text = before ++ c :: behind → isAngle c = true → fits (backslashes before)

/-- Every angle bracket is read as a character of its own: of the backslashes before it one is left
when they are taken in pairs. -/
def Literal (text : List Char) : Prop :=
  BeforeAngles Odd text

/-- No angle bracket is escaped. -/
def Unescaped (text : List Char) : Prop :=
  BeforeAngles Even text

/-- A text without the backslash right before each angle bracket. -/
def dropEscapes : List Char → List Char
  | [] => []
  | c :: rest =>
    if c = '\\' && rest.head?.any isAngle then dropEscapes rest else c :: dropEscapes rest

section Backslashes

variable {front text : List Char} {c : Char} {fits : Nat → Prop}

theorem backslashes_concat (text : List Char) (c : Char) :
    backslashes (text ++ [c]) = if c = '\\' then backslashes text + 1 else 0 := by
  unfold backslashes
  rw [List.rtakeWhile_concat]
  by_cases backslash : c = '\\' <;> simp [backslash]

theorem backslashes_append (ended : backslashes front = 0) (text : List Char) :
    backslashes (front ++ text) = backslashes text := by
  induction text using List.reverseRecOn with
  | nil =>
    rw [List.append_nil]
    exact ended
  | append_singleton text c ih =>
    rw [← List.append_assoc, backslashes_concat, backslashes_concat, ih]

theorem beforeAngles_nil : BeforeAngles fits [] := by
  intro before c behind whole
  simp at whole

theorem beforeAngles_concat :
    BeforeAngles fits (text ++ [c]) ↔
      BeforeAngles fits text ∧ (isAngle c = true → fits (backslashes text)) := by
  constructor
  · intro all
    refine ⟨fun before d behind whole => ?_, all text c [] rfl⟩
    exact all before d (behind ++ [c]) (by simp [whole])
  · rintro ⟨earlier, last⟩ before d behind whole angle
    rcases behind.eq_nil_or_concat with rfl | ⟨more, e, rfl⟩
    · obtain ⟨rfl, same⟩ := List.append_inj' whole rfl
      rw [(List.cons.inj same).1] at last
      exact last angle
    · rw [List.concat_eq_append, ← List.cons_append, ← List.append_assoc] at whole
      obtain ⟨rfl, -⟩ := List.append_inj' whole rfl
      exact earlier before d more rfl angle

theorem beforeAngles_append (ended : backslashes front = 0) (text : List Char) :
    BeforeAngles fits (front ++ text) ↔ BeforeAngles fits front ∧ BeforeAngles fits text := by
  induction text using List.reverseRecOn with
  | nil => simp [beforeAngles_nil]
  | append_singleton text c ih =>
    rw [← List.append_assoc, beforeAngles_concat, beforeAngles_concat, backslashes_append ended, ih,
      and_assoc]

/- The separator has no angle bracket, and no backslash at its end. -/
theorem beforeAngles_intercalate (types : List String) :
    BeforeAngles fits (" | ".intercalate types).toList ↔
      ∀ t ∈ types, BeforeAngles fits t.toList := by
  induction types with
  | nil => simp [beforeAngles_nil]
  | cons first more ih =>
    cases more with
    | nil => simp
    | cons next others =>
      have bar : " | ".toList = [' '] ++ ['|'] ++ [' '] := rfl
      have ended : backslashes (first.toList ++ " | ".toList) = 0 := by
        rw [bar, ← List.append_assoc, backslashes_concat, if_neg (by decide)]
      have same : BeforeAngles fits (first.toList ++ " | ".toList) ↔
          BeforeAngles fits first.toList := by
        have plain : isAngle ' ' = false ∧ isAngle '|' = false := by decide
        simp only [bar, ← List.append_assoc, beforeAngles_concat, plain]
        simp
      rw [String.intercalate_cons_cons, String.toList_append, String.toList_append,
        beforeAngles_append ended, same, ih]
      simp only [List.forall_mem_cons]

end Backslashes

section Escapes

theorem backslash_plain : isAngle '\\' = false := by
  decide

theorem ne_backslash {c : Char} (angle : isAngle c = true) : c ≠ '\\' := by
  rintro rfl
  cases backslash_plain.symm.trans angle

theorem escapeAngle_eq (c : Char) : escapeAngle c = if isAngle c then ['\\', c] else [c] := rfl

/- An escaped text ends with as many backslashes as before: a bracket ends the count in both. -/
theorem backslashes_escaped (text : List Char) :
    backslashes (text.flatMap escapeAngle) = backslashes text := by
  induction text using List.reverseRecOn with
  | nil => rfl
  | append_singleton text c ih =>
    rw [List.flatMap_append, List.flatMap_singleton, escapeAngle_eq]
    by_cases angle : isAngle c = true
    · have other := ne_backslash angle
      have pair : ['\\', c] = ['\\'] ++ [c] := rfl
      rw [if_pos angle, pair, ← List.append_assoc, backslashes_concat, if_neg other,
        backslashes_concat, if_neg other]
    · rw [if_neg angle, backslashes_concat, backslashes_concat, ih]

theorem literal_escaped_iff (text : List Char) :
    Literal (text.flatMap escapeAngle) ↔ Unescaped text := by
  unfold Literal Unescaped
  induction text using List.reverseRecOn with
  | nil => simp [beforeAngles_nil]
  | append_singleton text c ih =>
    rw [List.flatMap_append, List.flatMap_singleton, escapeAngle_eq, beforeAngles_concat, ← ih]
    by_cases angle : isAngle c = true
    · have pair : ['\\', c] = ['\\'] ++ [c] := rfl
      have odd : Odd (backslashes text + 1) ↔ Even (backslashes text) := by
        rw [Nat.odd_add_one, Nat.not_odd_iff_even]
      rw [if_pos angle, pair, ← List.append_assoc, beforeAngles_concat, beforeAngles_concat,
        backslashes_concat, backslashes_escaped]
      simp [angle, odd, backslash_plain]
    · rw [if_neg angle, beforeAngles_concat]
      simp [angle]

theorem escaped_starts (text : List Char) :
    (text.flatMap escapeAngle).head?.any isAngle = false := by
  cases text with
  | nil => rfl
  | cons c rest =>
    rw [List.flatMap_cons, escapeAngle_eq]
    by_cases angle : isAngle c = true
    · rw [if_pos angle]
      exact backslash_plain
    · rw [if_neg angle]
      simpa using angle

theorem dropEscapes_escaped (text : List Char) : dropEscapes (text.flatMap escapeAngle) = text := by
  induction text with
  | nil => rfl
  | cons c rest ih =>
    have starts := escaped_starts rest
    rw [List.flatMap_cons, escapeAngle_eq]
    by_cases angle : isAngle c = true
    · have other := ne_backslash angle
      simp [angle, dropEscapes, other, ih]
    · simp [angle, dropEscapes, starts, ih]

end Escapes

/-- The types of an entry have a backslash more before each angle bracket, and without it they are
what they were. So no bracket is live exactly if none of the types has an odd number of backslashes
before one, and a type that has them gives a live one. -/
theorem angles_literal_iff_unescaped (types : List String) :
    let joined := " | ".intercalate types
    (Literal (escapeAngles joined).toList ↔ ∀ t ∈ types, Unescaped t.toList) ∧
      dropEscapes (escapeAngles joined).toList = joined.toList := by
  intro joined
  unfold escapeAngles
  rw [String.toList_ofList, literal_escaped_iff]
  exact ⟨beforeAngles_intercalate types, dropEscapes_escaped joined.toList⟩

/-- A text in quotes, with a backslash before the bracket: the backslash that is added escapes the
one that is there, and the bracket is live. -/
theorem quoted_backslash_frees_angle :
    let type := "\"\\<b>\""
    entryLine {} { name := "x", types := [type] } = "`x` *\"\\\\<b\\>\"*" ∧
      ¬ Literal (escapeAngles (" | ".intercalate [type])).toList := by
  refine ⟨by decide, fun literal => ?_⟩
  have two : Odd 2 := literal ['"', '\\', '\\'] '<' ['b', '\\', '>', '"'] (by decide) rfl
  exact absurd two (by decide)

end Commentary.Page
