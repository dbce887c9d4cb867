import Commentary.Comment.Header
import Mathlib.Data.List.Infix

/-! Brackets in a text. The scan for a closing bracket keeps a counter. Where it stops is said here
without one, by how many brackets the starts of the text open and close. -/
namespace Commentary.Comment

variable {opening closing c : Char} {depth : Nat} {text inner rest : List Char}

/-- No start of the text closes more brackets than it opens, `depth` of them being open before. -/
def Nested (opening closing : Char) (depth : Nat) (text : List Char) : Prop :=
  ∀ start ∈ text.inits, start.count closing ≤ start.count opening + depth

def Balanced (opening closing : Char) (text : List Char) : Prop :=
  Nested opening closing 0 text ∧ text.count opening = text.count closing

instance (opening closing : Char) (depth : Nat) (text : List Char) :
    Decidable (Nested opening closing depth text) :=
  inferInstanceAs (Decidable (∀ start ∈ text.inits, _))

instance (opening closing : Char) (text : List Char) : Decidable (Balanced opening closing text) :=
  inferInstanceAs (Decidable (_ ∧ _))

theorem Nested.append {more : List Char} (before : Nested opening closing depth text)
    (even : text.count opening = text.count closing) (behind : Nested opening closing depth more) :
    Nested opening closing depth (text ++ more) := by
  intro start member
  rw [List.inits_append, List.mem_append, List.mem_map] at member
  rcases member with here | ⟨later, there, rfl⟩
  · exact before start here
  · have bound := behind later (List.mem_of_mem_tail there)
    rw [List.count_append, List.count_append]
    omega

namespace Balanced

theorem append {more : List Char} (before : Balanced opening closing text)
    (behind : Balanced opening closing more) : Balanced opening closing (text ++ more) := by
  refine ⟨before.1.append before.2 behind.1, ?_⟩
  rw [List.count_append, List.count_append, before.2, behind.2]

theorem of_plain (plain : ∀ c ∈ text, c ≠ opening ∧ c ≠ closing) :
    Balanced opening closing text := by
  have absent {c : Char} (other : ∀ d ∈ text, d ≠ c) (start : List Char) (within : start <+: text) :
      start.count c = 0 :=
    List.count_eq_zero.2 fun member => other c (within.subset member) rfl
  have openings := absent fun d member => (plain d member).1
  have closings := absent fun d member => (plain d member).2
  constructor
  · intro start member
    rw [closings start ((List.mem_inits _ _).1 member)]
    exact Nat.zero_le _
  · rw [openings text List.prefix_rfl, closings text List.prefix_rfl]

theorem joined {separator : Char} (notOpening : separator ≠ opening)
    (notClosing : separator ≠ closing) {pieces : List (List Char)}
    (each : ∀ piece ∈ pieces, Balanced opening closing piece) :
    Balanced opening closing (Text.joined separator pieces) := by
  have between : Balanced opening closing [separator] := of_plain (by simp [notOpening, notClosing])
  induction pieces with
  | nil => exact of_plain (by simp [Text.joined])
  | cons piece more ih =>
    obtain ⟨here, later⟩ := List.forall_mem_cons.1 each
    cases more with
    | nil => exact here
    | cons next others =>
      rw [Text.joined, List.append_cons]
      · exact (here.append between).append (ih later)
      · exact List.cons_ne_nil _ _

end Balanced

/-- The counter behind a character that the scan goes past. -/
def level (opening closing : Char) (depth : Nat) (c : Char) : Nat :=
  if c = opening then depth + 1 else if c = closing then depth - 1 else depth

theorem spanBalanced_cons (distinct : opening ≠ closing) :
    spanBalanced opening closing depth (c :: text) =
      if c = closing ∧ depth = 0 then some ([], text)
      else (spanBalanced opening closing (level opening closing depth c) text).map
        fun p => (c :: p.1, p.2) := by
  rw [spanBalanced.eq_def]
  by_cases opens : c = opening
  · simp [level, opens, distinct]
  · by_cases closes : c = closing
    · cases depth <;> simp [level, closes, distinct.symm]
    · simp [level, opens, closes]

section Counter

variable (distinct : opening ≠ closing)
include distinct

/- The counter makes up for the character that is gone from the front. -/
theorem count_level (goes_on : ¬ (c = closing ∧ depth = 0)) (start : List Char) :
    (c :: start).count closing + (start.count opening + level opening closing depth c) =
      start.count closing + ((c :: start).count opening + depth) := by
  unfold level
  by_cases opens : c = opening
  · subst opens
    rw [if_pos rfl, List.count_cons_self, List.count_cons_of_ne distinct]
    omega
  · rw [if_neg opens, List.count_cons_of_ne opens]
    by_cases closes : c = closing
    · have positive : depth ≠ 0 := fun zero => goes_on ⟨closes, zero⟩
      subst closes
      rw [if_pos rfl, List.count_cons_self]
      omega
    · rw [if_neg closes, List.count_cons_of_ne closes]

theorem nested_cons : Nested opening closing depth (c :: text) ↔
    ¬ (c = closing ∧ depth = 0) ∧ Nested opening closing (level opening closing depth c) text := by
  have shorter : Nested opening closing depth (c :: text) ↔ ∀ start ∈ text.inits,
      (c :: start).count closing ≤ (c :: start).count opening + depth := by
    simp [Nested]
  rw [shorter]
  constructor
  · intro nested
    have goes_on : ¬ (c = closing ∧ depth = 0) := by
      rintro ⟨rfl, rfl⟩
      have first := nested [] (by simp)
      simp [distinct.symm] at first
    refine ⟨goes_on, fun start member => ?_⟩
    have bound := nested start member
    have balance := count_level distinct goes_on start
    omega
  · rintro ⟨goes_on, nested⟩ start member
    have bound := nested start member
    have balance := count_level distinct goes_on start
    omega

/- The scan passes over whatever it cannot stop in, and stops at the bracket behind it. -/
theorem spanBalanced_append (nested : Nested opening closing depth inner)
    (total : inner.count closing = inner.count opening + depth) (rest : List Char) :
    spanBalanced opening closing depth (inner ++ closing :: rest) = some (inner, rest) := by
  induction inner generalizing depth with
  | nil =>
    obtain rfl : depth = 0 := by simpa using total.symm
    rw [List.nil_append, spanBalanced_cons distinct, if_pos ⟨rfl, rfl⟩]
  | cons c inner ih =>
    obtain ⟨goes_on, later⟩ := (nested_cons distinct).1 nested
    have balance := count_level distinct goes_on inner
    rw [List.cons_append, spanBalanced_cons distinct, if_neg goes_on, ih later (by omega)]
    rfl

/- Either the counter never falls below zero, or the scan stops where it first would. -/
theorem spanBalanced_spec (depth : Nat) (text : List Char) :
    match spanBalanced opening closing depth text with
    | none => Nested opening closing depth text
    | some (inner, rest) =>
      text = inner ++ closing :: rest ∧ Nested opening closing depth inner ∧
        inner.count closing = inner.count opening + depth := by
  induction text generalizing depth with
  | nil => simp [spanBalanced, Nested]
  | cons c text ih =>
    rw [spanBalanced_cons distinct]
    by_cases stops : c = closing ∧ depth = 0
    · obtain ⟨rfl, rfl⟩ := stops
      simp [Nested]
    · rw [if_neg stops]
      have later := ih (level opening closing depth c)
      cases found : spanBalanced opening closing (level opening closing depth c) text with
      | none =>
        rw [found] at later
        exact (nested_cons distinct).2 ⟨stops, later⟩
      | some pair =>
        rw [found] at later
        obtain ⟨whole, nested, total⟩ := later
        have balance := count_level distinct stops pair.1
        refine ⟨by rw [whole]; rfl, (nested_cons distinct).2 ⟨stops, nested⟩, ?_⟩
        show (c :: pair.1).count closing = (c :: pair.1).count opening + depth
        omega

theorem spanBalanced_eq_none (unclosed : spanBalanced opening closing depth text = none) :
    Nested opening closing depth text := by
  have spec := spanBalanced_spec distinct depth text
  rwa [unclosed] at spec

theorem spanBalanced_eq_some
    (closed : spanBalanced opening closing depth text = some (inner, rest)) :
    text = inner ++ closing :: rest ∧ Nested opening closing depth inner ∧
      inner.count closing = inner.count opening + depth := by
  have spec := spanBalanced_spec distinct depth text
  rwa [closed] at spec

end Counter

/-- The shortest start of a text, longer than nothing, with as many opening as closing brackets. -/
def token? (opening closing : Char) (text : List Char) : Option (List Char) :=
  text.inits.find? fun start => start ≠ [] ∧ start.count opening = start.count closing

/- Behind an opening bracket the scan finds the rest of the token. -/
theorem token?_cons (distinct : opening ≠ closing) :
    token? opening closing (opening :: text) =
      (spanBalanced opening closing 0 text).map fun p => opening :: p.1 ++ [closing] := by
  -- One bracket is open, so no start is even as long as the counter has not come back to zero.
  have uneven {start : List Char} (bound : start.count closing ≤ start.count opening + 0) :
      (opening :: start).count opening ≠ (opening :: start).count closing := by
    rw [List.count_cons_self, List.count_cons_of_ne distinct]
    omega
  cases found : spanBalanced opening closing 0 text with
  | none =>
    have nested := spanBalanced_eq_none distinct found
    simp only [token?, Option.map_none, List.find?_eq_none, List.inits_cons, List.mem_cons,
      List.mem_map, decide_eq_true_eq]
    rintro start (rfl | ⟨later, member, rfl⟩) ⟨something, even⟩
    · exact something rfl
    · exact uneven (nested later member) even
  | some pair =>
    obtain ⟨inner, rest⟩ := pair
    obtain ⟨rfl, nested, total⟩ := spanBalanced_eq_some distinct found
    simp only [token?, Option.map_some]
    rw [List.find?_eq_some_iff_getElem]
    refine ⟨?_, inner.length + 2, by simp; omega, ?_, ?_⟩
    · simp [distinct, distinct.symm, total]
    · simp [List.getElem_inits]
    · intro j shorter
      rw [List.getElem_inits]
      cases j with
      | zero => simp
      | succ j =>
        have within : j ≤ inner.length := by omega
        have start : (opening :: (inner ++ closing :: rest)).take (j + 1) =
            opening :: inner.take j := by
          rw [List.take_succ_cons, List.take_append_of_le_length within]
        have bound := nested (inner.take j) ((List.mem_inits _ _).2 (List.take_prefix j inner))
        rw [start]
        simpa using uneven bound

end Commentary.Comment
