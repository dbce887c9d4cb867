import Commentary.Page
import Mathlib.Data.List.Basic

/-! Code spans. The fence of a text is longer than every run of backticks inside it, and it never
touches one, so whoever takes the next run of the same length for the end of the span finds the
text as it was. Runs are the whole ones: they cannot be extended on either side. -/
namespace Commentary.Page

section Runs

variable {text before behind : List Char} {n run : Nat}

/-- A run of backticks together with what stands before and behind it. -/
structure Run (text before : List Char) (n : Nat) (behind : List Char) : Prop where
  whole : text = before ++ List.replicate n backtick ++ behind
  positive : 0 < n
  left : before.getLast? ≠ some backtick
  right : behind.head? ≠ some backtick

theorem le_longestRun (run : Nat) (text : List Char) : run ≤ longestRun run text := by
  induction text generalizing run with
  | nil => exact Nat.le_refl run
  | cons c rest ih =>
    rw [longestRun]
    split
    · exact Nat.le_of_succ_le (ih (run + 1))
    · exact Nat.le_max_left ..

theorem longestRun_replicate (run n : Nat) (behind : List Char) :
    longestRun run (List.replicate n backtick ++ behind) = longestRun (run + n) behind := by
  induction n generalizing run with
  | zero => rfl
  | succ n ih =>
    rw [List.replicate_succ, List.cons_append, longestRun, if_pos rfl, ih]
    congr 1
    omega

/- Another character ends the run, and the rest is measured on its own. -/
theorem longestRun_append_cons {c : Char} (other : c ≠ backtick) (run : Nat)
    (before behind : List Char) :
    longestRun run (before ++ c :: behind) = max (longestRun run before) (longestRun 0 behind) := by
  induction before generalizing run with
  | nil => simp [longestRun, other]
  | cons d rest ih =>
    simp only [List.cons_append, longestRun]
    split
    · exact ih (run + 1)
    · rw [ih 0, Nat.max_assoc]

theorem Run.le_longestRun (found : Run text before n behind) : n ≤ longestRun 0 text := by
  have here : n ≤ longestRun 0 (List.replicate n backtick ++ behind) := by
    rw [longestRun_replicate, Nat.zero_add]
    exact Page.le_longestRun n behind
  obtain ⟨rfl, -, left, -⟩ := found
  rcases before.eq_nil_or_concat with rfl | ⟨front, c, rfl⟩
  · simpa using here
  · have other : c ≠ backtick := by simpa using left
    have split := longestRun_append_cons other 0 front (List.replicate n backtick ++ behind)
    rw [List.concat_eq_append, List.append_assoc, List.append_assoc, List.singleton_append]
    omega

theorem no_backtick (none : longestRun 0 text = 0) : backtick ∉ text := by
  induction text with
  | nil => exact List.not_mem_nil
  | cons c rest ih =>
    rw [longestRun] at none
    split at none
    · have := le_longestRun (0 + 1) rest
      omega
    · rename_i other
      have later : longestRun 0 rest = 0 := by omega
      simp [Ne.symm other, ih later]

end Runs

section Spans

variable {inner after : List Char} {n run : Nat}

/-- What stands behind the first run of just `n` backticks, given the length of the run so far. -/
def behindRun (n run : Nat) : List Char → Option (List Char)
  | [] => if run = n then some [] else none
  | c :: rest =>
    if c = backtick then behindRun n (run + 1) rest
    else if run = n then some (c :: rest)
    else behindRun n 0 rest

/-- What stands behind the code span that a text starts with. A span is opened by a run of backticks
and closed by the next run of the same length. -/
def behindSpan (text : List Char) : Option (List Char) :=
  let fence := text.takeWhile (· == backtick)
  if fence.isEmpty then none
  else behindRun fence.length 0 (text.drop fence.length)

theorem behindRun_replicate (n run k : Nat) (after : List Char) :
    behindRun n run (List.replicate k backtick ++ after) = behindRun n (run + k) after := by
  induction k generalizing run with
  | zero => rfl
  | succ k ih =>
    rw [List.replicate_succ, List.cons_append, behindRun, if_pos rfl, ih]
    congr 1
    omega

theorem behindRun_full (other : after.head? ≠ some backtick) :
    behindRun n n after = some after := by
  cases after with
  | nil => simp [behindRun]
  | cons c rest =>
    have here : c ≠ backtick := by simpa using other
    simp [behindRun, here]

/- The induction is on the inner text. No run in it gets as far as `n`, and the last one has ended
before the fence, so the count starts from zero there. -/
theorem behindRun_fence (short : longestRun run inner < n) (last : inner.getLast? ≠ some backtick)
    (fresh : inner = [] → run = 0) (other : after.head? ≠ some backtick) :
    behindRun n run (inner ++ List.replicate n backtick ++ after) = some after := by
  induction inner generalizing run with
  | nil =>
    rw [fresh rfl, List.nil_append, behindRun_replicate, Nat.zero_add]
    exact behindRun_full other
  | cons c rest ih =>
    have final : rest.getLast? ≠ some backtick := by
      cases rest with
      | nil => exact nofun
      | cons d more => simpa using last
    rw [longestRun] at short
    rw [List.cons_append, List.cons_append, behindRun]
    by_cases tick : c = backtick
    · have more : rest ≠ [] := by
        rintro rfl
        exact last (congrArg some tick)
      rw [if_pos tick] at short ⊢
      exact ih short final fun nothing => absurd nothing more
    · rw [if_neg tick] at short ⊢
      have going : run ≠ n := by omega
      rw [if_neg going]
      exact ih (by omega) final fun _ => rfl

theorem takeWhile_fence (n : Nat) (starts : inner.head? ≠ some backtick) :
    (List.replicate n backtick ++ inner).takeWhile (· == backtick) =
      List.replicate n backtick := by
  have stops : inner.takeWhile (· == backtick) = [] := by
    cases inner with
    | nil => rfl
    | cons c rest =>
      have other : c ≠ backtick := by simpa using starts
      simp [other]
  rw [List.takeWhile_append_of_pos (by simp), stops, List.append_nil]

theorem behindSpan_fenced (short : longestRun 0 inner < n)
    (first : inner.head? ≠ some backtick) (last : inner.getLast? ≠ some backtick)
    (something : inner ≠ []) (other : after.head? ≠ some backtick) :
    behindSpan (List.replicate n backtick ++ (inner ++ List.replicate n backtick ++ after)) =
      some after := by
  have starts : (inner ++ List.replicate n backtick ++ after).head? ≠ some backtick := by
    rw [List.append_assoc, List.head?_append_of_ne_nil _ something]
    exact first
  have positive : n ≠ 0 := by omega
  have fence := takeWhile_fence n starts
  have opened : (List.replicate n backtick).isEmpty = false := by simpa using positive
  rw [behindSpan, fence, opened]
  simp only [List.length_replicate, Bool.false_eq_true, if_false]
  rw [List.drop_left' List.length_replicate]
  exact behindRun_fence short last (fun _ => rfl) other

end Spans

section Fences

variable {text before behind inner rest : List Char} {n : Nat}

/- Where a text that starts with backticks is cut behind another character, all of them stand before
the cut. -/
theorem split_opening (cut : List.replicate n backtick ++ inner = before ++ rest)
    (something : before ≠ []) (left : before.getLast? ≠ some backtick) :
    ∃ x, before = List.replicate n backtick ++ x ∧ inner = x ++ rest := by
  rcases List.append_eq_append_iff.1 cut with ⟨x, rfl, rfl⟩ | ⟨x, fence, _⟩
  · exact ⟨x, rfl, rfl⟩
  · have ticks : before.getLast something ∈ List.replicate n backtick := by
      rw [fence]
      exact List.mem_append_left x (List.getLast_mem something)
    rw [List.getLast?_eq_some_getLast something, List.eq_of_mem_replicate ticks] at left
    exact absurd rfl left

theorem split_closing (cut : inner ++ List.replicate n backtick = rest ++ behind)
    (something : behind ≠ []) (right : behind.head? ≠ some backtick) :
    ∃ y, behind = y ++ List.replicate n backtick ∧ inner = rest ++ y := by
  have mirrored : List.replicate n backtick ++ inner.reverse = behind.reverse ++ rest.reverse := by
    simpa using congrArg List.reverse cut
  obtain ⟨x, first, second⟩ :=
    split_opening mirrored (by simpa using something) (by simpa using right)
  exact ⟨x.reverse, by simpa using congrArg List.reverse first,
    by simpa using congrArg List.reverse second⟩

/- A run between the fences is a run of the inner text. -/
theorem Run.inside {k : Nat}
    (found : Run (List.replicate n backtick ++ inner ++ List.replicate n backtick) before k behind)
    (notFirst : before ≠ []) (notLast : behind ≠ []) : ∃ x y, Run inner x k y := by
  obtain ⟨whole, some_tick, left, right⟩ := found
  obtain ⟨y, rfl, closed⟩ := split_closing whole notLast right
  rw [List.append_assoc] at closed
  obtain ⟨x, rfl, rfl⟩ := split_opening closed notFirst left
  refine ⟨x, y, (List.append_assoc ..).symm, some_tick, ?_, ?_⟩
  · intro touches
    exact left (by simp [List.getLast?_append, touches])
  · intro touches
    exact right (by simp [List.head?_append, touches])

end Fences

/-- The space between a long fence and the text. -/
def margin (n : Nat) : List Char :=
  if 1 < n then [' '] else []

/-- A text between two fences of `n` backticks, with no other run of that length. -/
structure Fenced (value text : List Char) (n : Nat) : Prop where
  whole : text = List.replicate n backtick ++ (margin n ++ value ++ margin n) ++
    List.replicate n backtick
  opens : ∃ behind, Run text [] n behind
  closes : ∃ before, Run text before n []
  between : ∀ before k behind, Run text before k behind → before ≠ [] → behind ≠ [] → k ≠ n

def fenceLength (value : String) : Nat :=
  longestRun 0 value.toList + 1

def padded (value : String) : List Char :=
  margin (fenceLength value) ++ value.toList ++ margin (fenceLength value)

theorem toList_code (value : String) :
    (code value).toList = List.replicate (fenceLength value) backtick ++ padded value ++
      List.replicate (fenceLength value) backtick := by
  unfold code padded fenceLength margin
  cases longestRun 0 value.toList with
  | zero =>
    have tick : "`".toList = [backtick] := rfl
    simp [tick]
  | succ n =>
    have space : " ".toList = [' '] := rfl
    simp [space]

theorem longestRun_padded (value : String) : longestRun 0 (padded value) < fenceLength value := by
  have other : ' ' ≠ backtick := by decide
  have inside : longestRun 0 (padded value) = longestRun 0 value.toList := by
    unfold padded margin
    split
    · have behind := longestRun_append_cons other 0 value.toList []
      have before := longestRun_append_cons other 0 [] (value.toList ++ [' '])
      simp only [longestRun, List.nil_append, List.cons_append] at behind before ⊢
      omega
    · simp
  rw [inside]
  exact Nat.lt_succ_self _

/- Either a space stands there, or the text has no backtick at all. -/
theorem padded_ends {value : String} (filled : value ≠ "") :
    padded value ≠ [] ∧ (padded value).head? ≠ some backtick ∧
      (padded value).getLast? ≠ some backtick := by
  have something : value.toList ≠ [] := by simpa using filled
  unfold padded margin
  split
  · have other : ' ' ≠ backtick := by decide
    simp [List.getLast?_cons, other]
  · rename_i short
    have absent : backtick ∉ value.toList := no_backtick (by unfold fenceLength at short; omega)
    simp only [List.nil_append, List.append_nil]
    refine ⟨something, fun first => absent ?_, fun last => absent ?_⟩
    · exact List.mem_of_mem_head? first
    · exact List.mem_of_getLast? last

theorem fenced_code {value : String} (filled : value ≠ "") :
    Fenced value.toList (code value).toList (fenceLength value) := by
  have positive : 0 < fenceLength value := Nat.succ_pos _
  obtain ⟨something, first, last⟩ := padded_ends filled
  refine ⟨toList_code value, ⟨padded value ++ List.replicate (fenceLength value) backtick, ?_⟩,
    ⟨List.replicate (fenceLength value) backtick ++ padded value, ?_⟩, ?_⟩
  · refine ⟨by simp [toList_code], positive, nofun, ?_⟩
    rwa [List.head?_append_of_ne_nil _ something]
  · refine ⟨by simp [toList_code], positive, ?_, nofun⟩
    rwa [List.getLast?_append_of_ne_nil _ something]
  · intro before k behind found notFirst notLast
    rw [toList_code] at found
    obtain ⟨x, y, inner⟩ := found.inside notFirst notLast
    have short := Nat.lt_of_le_of_lt inner.le_longestRun (longestRun_padded value)
    exact Nat.ne_of_lt short

theorem behindSpan_code {value : String} (filled : value ≠ "") {after : List Char}
    (other : after.head? ≠ some backtick) :
    behindSpan ((code value).toList ++ after) = some after := by
  obtain ⟨something, first, last⟩ := padded_ends filled
  have span := behindSpan_fenced (longestRun_padded value) first last something other
  simpa [toList_code] using span

/- The length of the fence can be read off the front, and with it all that surrounds the text. -/
theorem code_injective {a b : String} (filled : a ≠ "") (filled' : b ≠ "")
    (same : code a = code b) : a = b := by
  have opening {value : String} (filled : value ≠ "") :
      ((code value).toList.takeWhile (· == backtick)).length = fenceLength value := by
    obtain ⟨something, first, -⟩ := padded_ends filled
    have starts : (padded value ++ List.replicate (fenceLength value) backtick).head? ≠
        some backtick := by
      rwa [List.head?_append_of_ne_nil _ something]
    rw [toList_code, List.append_assoc, takeWhile_fence _ starts, List.length_replicate]
  have fences : fenceLength a = fenceLength b := by
    rw [← opening filled, ← opening filled', same]
  have texts := congrArg String.toList same
  rw [toList_code, toList_code, padded, padded, fences] at texts
  exact String.toList_injective (by simpa using texts)

section Lines

variable (locale : Locale) {p : Param} {value : String}

theorem intercalate_starts (first : String) (more : List String) :
    ∃ after, " ".intercalate (first :: more) = first ++ after ∧
      after.toList.head? ≠ some backtick := by
  cases more with
  | nil => exact ⟨"", by simp, nofun⟩
  | cons next others =>
    refine ⟨" " ++ " ".intercalate (next :: others), ?_, ?_⟩
    · rw [String.intercalate_cons_cons, String.append_assoc]
    · have other : ' ' ≠ backtick := by decide
      simp [other]

theorem intercalate_ends (parts : List String) (last : String) :
    ∃ front, " ".intercalate (parts ++ [last]) = front ++ last := by
  induction parts with
  | nil => exact ⟨"", by simp⟩
  | cons first more ih =>
    obtain ⟨front, whole⟩ := ih
    refine ⟨first ++ " " ++ front, ?_⟩
    obtain ⟨next, others, shape⟩ := List.exists_cons_of_ne_nil
      (List.append_ne_nil_of_right_ne_nil more (List.cons_ne_nil last []))
    rw [shape] at whole
    rw [List.cons_append, shape, String.intercalate_cons_cons, whole, ← String.append_assoc]

theorem entryLine_starts (filled : value ≠ "") (name : p.name = value) :
    ∃ after, entryLine locale p = code value ++ after ∧ after.toList.head? ≠ some backtick := by
  have named : p.name.isEmpty = false := by simpa [name] using filled
  obtain ⟨after, whole, other⟩ := intercalate_starts (code value) _
  refine ⟨after, ?_, other⟩
  rw [← whole, entryLine, named, name]
  rfl

theorem entryLine_ends (given : p.default = some value) :
    ∃ front, entryLine locale p = front ++ " " ++ code value := by
  obtain ⟨front, whole⟩ := intercalate_ends _ (locale.defaultAs ++ " " ++ code value)
  refine ⟨front ++ locale.defaultAs, ?_⟩
  calc entryLine locale p = front ++ (locale.defaultAs ++ " " ++ code value) := by
        rw [← whole, entryLine, given]
        rfl
    _ = front ++ locale.defaultAs ++ " " ++ code value := by simp only [String.append_assoc]

end Lines

/-- A text as code can be read in one way only. It stands between two fences of one length with no
other run of that length, with a space on each side if the fences are longer than one, so two texts
never look the same. The span ends where the text does, also for the name and the default value on
the line of an entry, whatever else the line says. -/
theorem code_spans_self_delimiting (value : String) (filled : value ≠ "") :
    Fenced value.toList (code value).toList (fenceLength value) ∧
    (∀ other : String, other ≠ "" → code other = code value → other = value) ∧
    (∀ after : List Char, after.head? ≠ some backtick →
      behindSpan ((code value).toList ++ after) = some after) ∧
    ∀ (locale : Locale) (p : Param),
      (p.name = value → ∃ after, entryLine locale p = code value ++ after ∧
        behindSpan (entryLine locale p).toList = some after.toList) ∧
      (p.default = some value → ∃ front, entryLine locale p = front ++ " " ++ code value ∧
        behindSpan (code value).toList = some []) := by
  have ends (after : List Char) (other : after.head? ≠ some backtick) :
      behindSpan ((code value).toList ++ after) = some after := behindSpan_code filled other
  refine ⟨fenced_code filled, fun other filled' same => code_injective filled' filled same, ends,
    fun locale p => ⟨fun name => ?_, fun given => ?_⟩⟩
  · obtain ⟨after, whole, other⟩ := entryLine_starts locale filled name
    refine ⟨after, whole, ?_⟩
    rw [whole, String.toList_append]
    exact ends after.toList other
  · obtain ⟨front, whole⟩ := entryLine_ends locale given
    refine ⟨front, whole, ?_⟩
    simpa using ends [] nofun

/-- A text with backticks at both ends, as a name and as a default value. -/
theorem ticked_ends_self_delimiting :
    let value := "``a`"
    let p : Param := { name := value, optional := true, default := some value }
    value ≠ "" ∧ code value = "``` ``a` ```" ∧
      Fenced value.toList (code value).toList 3 ∧
      (∃ after, entryLine {} p = code value ++ after ∧
        behindSpan (entryLine {} p).toList = some after.toList) ∧
      ∃ front, entryLine {} p = front ++ " " ++ code value ∧
        behindSpan (code value).toList = some [] := by
  intro value p
  have filled : value ≠ "" := by decide
  have long : fenceLength value = 3 := by decide
  obtain ⟨fenced, -, -, lines⟩ := code_spans_self_delimiting value filled
  exact ⟨filled, by decide, long ▸ fenced, (lines {} p).1 rfl, (lines {} p).2 rfl⟩

end Commentary.Page
