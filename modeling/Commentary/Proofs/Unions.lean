import Commentary.Proofs.Tidiness
import Commentary.Comment.Union

/-! Alternatives of types put side by side. The scan for bars carries a depth and the character
before, so alternatives can be cut one by one if each of them comes back to depth zero. -/
namespace Commentary.Comment

open Text

/-- The depth of brackets at the end of a text. -/
def depthAfter (depth : Int) (previous : Char) : List Char → Int
  | [] => depth
  | c :: rest => depthAfter (depth + depthChange previous c) c rest

theorem cutUnion_ne_nil (depth : Int) (previous : Char) (text : List Char) :
    cutUnion depth previous text ≠ [] := by
  cases text with
  | nil => simp [cutUnion]
  | cons c rest =>
    rw [cutUnion]
    split
    · exact List.cons_ne_nil _ _
    · cases cutUnion (depth + depthChange previous c) c rest <;> exact List.cons_ne_nil _ _

theorem cutUnion_append {depth : Int} {previous : Char} {text : List Char}
    (closed : depthAfter depth previous text = 0) (more : List Char) :
    cutUnion depth previous (text ++ '|' :: more) =
      cutUnion depth previous text ++ cutUnion 0 '|' more := by
  induction text generalizing depth previous with
  | nil =>
    obtain rfl : depth = 0 := closed
    simp [cutUnion]
  | cons c rest ih =>
    rw [depthAfter] at closed
    rw [List.cons_append, cutUnion, cutUnion]
    split
    · rename_i bar
      obtain ⟨rfl, rfl⟩ := bar
      -- A bar changes no depth.
      have same : depthAfter 0 '|' rest = 0 := by simpa [depthChange] using closed
      rw [ih same, List.cons_append]
    · rw [ih closed, pushFirst_append c (cutUnion_ne_nil _ _ _)]

/- Before the first character only the equals sign of an arrow makes a difference. -/
theorem cutUnion_previous {previous : Char} (other : previous ≠ '=') (depth : Int)
    (text : List Char) : cutUnion depth previous text = cutUnion depth ' ' text := by
  cases text with
  | nil => rfl
  | cons c rest => simp [cutUnion, depthChange, other]

theorem splitUnion_append {text : List Char} (closed : depthAfter 0 ' ' text = 0)
    (more : List Char) : splitUnion (text ++ '|' :: more) = splitUnion text ++ splitUnion more := by
  have start : '|' ≠ '=' := by decide
  rw [splitUnion, cutUnion_append closed, cutUnion_previous start, List.filterMap_append]
  rfl

theorem splitUnion_joined {pieces : List (List Char)}
    (closed : ∀ piece ∈ pieces, depthAfter 0 ' ' piece = 0) :
    splitUnion (joined '|' pieces) = pieces.flatMap splitUnion := by
  induction pieces with
  | nil => rfl
  | cons piece more ih =>
    obtain ⟨here, later⟩ := List.forall_mem_cons.1 closed
    cases more with
    | nil => simp [joined]
    | cons next others =>
      rw [joined_cons_cons, splitUnion_append here, ih later]
      rfl

end Commentary.Comment
