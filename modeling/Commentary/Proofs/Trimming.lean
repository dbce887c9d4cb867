import Commentary.Text.Pieces
import Commentary.Text.Trim
import Mathlib.Data.List.DropRight

/-! Trimming. Cutting white space off the one end of a text and off the other do not get into each
other's way, and what has no white space at its ends is left alone. -/
namespace Commentary.Text

section Ends

variable {α : Type} {p : α → Bool} {a : α}

theorem head_dropWhile {list : List α} (first : (list.dropWhile p).head? = some a) :
    p a = false := by
  have fact := List.head?_dropWhile_not p list
  rw [first] at fact
  exact fact

theorem last_rdropWhile {list : List α} (last : (list.rdropWhile p).getLast? = some a) :
    p a = false := by
  rw [List.rdropWhile, List.getLast?_reverse] at last
  exact head_dropWhile last

/- Cutting off the end leaves the start alone, or nothing at all. -/
theorem head_rdropWhile_dropWhile {list : List α}
    (first : ((list.dropWhile p).rdropWhile p).head? = some a) : p a = false := by
  obtain ⟨rest, whole⟩ := List.rdropWhile_prefix p (list.dropWhile p)
  have start : (list.dropWhile p).head? = some a := by
    rw [← whole, List.head?_append, first]
    rfl
  exact head_dropWhile start

theorem dropWhile_of_head {list : List α} (kept : ∀ a, list.head? = some a → p a = false) :
    list.dropWhile p = list := by
  cases list with
  | nil => rfl
  | cons a rest => rw [List.dropWhile_cons_of_neg (by simp [kept a rfl])]

end Ends

theorem trimStart_trimStart (text : List Char) : trimStart (trimStart text) = trimStart text :=
  dropWhile_of_head fun _ => head_dropWhile

theorem trim_trimStart (text : List Char) : trim (trimStart text) = trim text := by
  rw [trim, trimStart_trimStart, ← trim]

theorem trimEnd_cons (c : Char) (rest : List Char) :
    trimEnd (c :: rest) =
      if isBlank c = true ∧ trimEnd rest = [] then [] else c :: trimEnd rest := by
  unfold trimEnd
  rw [List.reverse_cons, List.dropWhile_append]
  cases ended : rest.reverse.dropWhile isBlank with
  | nil => cases blank : isBlank c <;> simp [blank]
  | cons last others => simp

theorem trimEnd_append_blank {space : List Char} (blank : isBlankLine space = true)
    (text : List Char) : trimEnd (text ++ space) = trimEnd text := by
  have reversed : ∀ c ∈ space.reverse, isBlank c = true := fun c member =>
    List.all_eq_true.1 blank c (List.mem_reverse.1 member)
  rw [trimEnd, List.reverse_append, List.dropWhile_append_of_pos reversed, trimEnd]

theorem trimStart_trimEnd (text : List Char) : trimStart (trimEnd text) = trim text := by
  induction text with
  | nil => rfl
  | cons c rest ih =>
    cases blank : isBlank c with
    | false => simp [trim, trimStart, blank, trimEnd_cons]
    | true =>
      have skipped : trim (c :: rest) = trim rest := by simp [trim, trimStart, blank]
      rw [skipped, ← ih, trimEnd_cons]
      by_cases nothing : trimEnd rest = []
      · simp [nothing, blank]
      · simp [nothing, trimStart, blank]

theorem trim_trimEnd (text : List Char) : trim (trimEnd text) = trim text := by
  rw [trim, trimStart_trimEnd, trim]
  exact List.rdropWhile_idempotent _ _

theorem trim_trim (text : List Char) : trim (trim text) = trim text :=
  calc
    trim (trim text) = trim (trimStart text) := trim_trimEnd _
    _ = trim text := trim_trimStart text

theorem trimEnd_eq_nil_iff {text : List Char} : trimEnd text = [] ↔ isBlankLine text = true := by
  rw [isBlankLine, List.all_eq_true]
  exact List.rdropWhile_eq_nil_iff

theorem trim_eq_nil_iff {text : List Char} : trim text = [] ↔ isBlankLine text = true := by
  rw [trim, trimEnd_eq_nil_iff, isBlankLine, isBlankLine, List.all_eq_true, List.all_eq_true]
  constructor
  · intro blank c member
    rw [← List.takeWhile_append_dropWhile (p := isBlank) (l := text), List.mem_append] at member
    exact member.elim List.mem_takeWhile_imp (blank c)
  · exact fun blank c member => blank c ((List.dropWhile_suffix _).subset member)

theorem exists_trim (text : List Char) : ∃ lead tail, isBlankLine lead = true ∧
    isBlankLine tail = true ∧ text = lead ++ (trim text ++ tail) := by
  have blank : ∀ c ∈ text.takeWhile isBlank, isBlank c = true :=
    fun _ member => List.mem_takeWhile_imp member
  have ended : ∀ c ∈ (trimStart text).rtakeWhile isBlank, isBlank c = true :=
    fun _ member => List.mem_rtakeWhile_imp member
  refine ⟨_, _, List.all_eq_true.2 blank, List.all_eq_true.2 ended, ?_⟩
  have tail : trim text ++ (trimStart text).rtakeWhile isBlank = trimStart text :=
    List.rdropWhile_append_rtakeWhile
  rw [tail]
  exact List.takeWhile_append_dropWhile.symm

theorem isBlankLine_eq_false_iff {text : List Char} :
    isBlankLine text = false ↔ trim text ≠ [] := by
  rw [Bool.eq_false_iff, ne_eq, ne_eq, trim_eq_nil_iff]

theorem nonBlank_eq (text : List Char) :
    nonBlank text = if isBlankLine text then none else some (String.ofList (trim text)) := by
  unfold nonBlank
  cases blank : isBlankLine text with
  | true =>
    rw [trim_eq_nil_iff.2 blank]
    rfl
  | false => simp [isBlankLine_eq_false_iff.1 blank]

theorem trimStart_append {text : List Char} (something : text ≠ [])
    (stripped : trimStart text = text) (more : List Char) :
    trimStart (text ++ more) = text ++ more := by
  cases text with
  | nil => exact absurd rfl something
  | cons c rest =>
    have visible : isBlank c = false :=
      head_dropWhile (show (trimStart (c :: rest)).head? = some c by rw [stripped]; rfl)
    simp [trimStart, visible]

theorem trimEnd_append_of_ne {text : List Char} (something : trimEnd text ≠ [])
    (before : List Char) : trimEnd (before ++ text) = before ++ trimEnd text := by
  induction before with
  | nil => rfl
  | cons c before ih =>
    rw [List.cons_append, trimEnd_cons, ih, if_neg]
    · rfl
    · simp [something]

theorem trimEnd_append {text : List Char} (something : text ≠ []) (ended : trimEnd text = text)
    (before : List Char) : trimEnd (before ++ text) = before ++ text := by
  rw [trimEnd_append_of_ne (by rwa [ended]), ended]

theorem trim_eq_self_iff {text : List Char} :
    trim text = text ↔ trimStart text = text ∧ trimEnd text = text := by
  constructor
  · intro trimmed
    have stripped : trimStart text = text := by
      rw [← trimmed, ← trimStart_trimEnd, trimStart_trimStart]
    refine ⟨stripped, ?_⟩
    rwa [trim, stripped] at trimmed
  · rintro ⟨stripped, ended⟩
    rw [trim, stripped, ended]

theorem trim_of_visible {text : List Char} (visible : ∀ c ∈ text, isBlank c = false) :
    trim text = text := by
  have starts : trimStart text = text :=
    dropWhile_of_head fun c first => visible c (List.mem_of_head? first)
  have ends : text.reverse.dropWhile isBlank = text.reverse :=
    dropWhile_of_head fun c last => visible c (List.mem_reverse.1 (List.mem_of_head? last))
  rw [trim, starts, trimEnd, ends, List.reverse_reverse]

theorem joined_cons_cons (separator : Char) (piece next : List Char) (more : List (List Char)) :
    joined separator (piece :: next :: more) =
      piece ++ separator :: joined separator (next :: more) :=
  rfl

theorem joined_concat {separator : Char} {pieces : List (List Char)} (some_piece : pieces ≠ [])
    (last : List Char) :
    joined separator (pieces ++ [last]) = joined separator pieces ++ separator :: last := by
  induction pieces with
  | nil => exact absurd rfl some_piece
  | cons piece more ih =>
    cases more with
    | nil => rfl
    | cons next others =>
      have later := ih (List.cons_ne_nil _ _)
      rw [List.cons_append, List.cons_append, joined_cons_cons, ← List.cons_append, later,
        joined_cons_cons, List.append_assoc, List.cons_append]

theorem joined_ne_nil {s : Char} {pieces : List (List Char)} (some_piece : pieces ≠ [])
    (filled : ∀ piece ∈ pieces, piece ≠ []) : joined s pieces ≠ [] := by
  match pieces with
  | [] => exact absurd rfl some_piece
  | [piece] => exact filled piece List.mem_cons_self
  | piece :: _ :: _ =>
    rw [joined_cons_cons]
    exact List.append_ne_nil_of_right_ne_nil _ (List.cons_ne_nil _ _)

theorem trim_joined {separator : Char} {pieces : List (List Char)}
    (filled : ∀ piece ∈ pieces, piece ≠ []) (trimmed : ∀ piece ∈ pieces, trim piece = piece) :
    trim (joined separator pieces) = joined separator pieces := by
  induction pieces with
  | nil => rfl
  | cons piece more ih =>
    obtain ⟨here, later⟩ := List.forall_mem_cons.1 trimmed
    obtain ⟨something, rest⟩ := List.forall_mem_cons.1 filled
    cases more with
    | nil => exact here
    | cons next others =>
      have ends := (trim_eq_self_iff.1 (ih rest later)).2
      have last := joined_ne_nil (s := separator) (List.cons_ne_nil next others) rest
      rw [joined_cons_cons, trim_eq_self_iff]
      refine ⟨trimStart_append something (trim_eq_self_iff.1 here).1 _, ?_⟩
      rw [List.append_cons]
      exact trimEnd_append last ends _

end Commentary.Text
