import Mathlib.Data.List.TakeWhile

/-! Texts taken apart at byte offsets. An offset counts the bytes of UTF-8 and may fall outside the
text or inside a character, and then there is nothing to take apart. -/
namespace Commentary.Text

/-- Why a step cannot be taken that goes by offsets, indices or counters. -/
inductive Fault where
  | outOfRange
  | insideCharacter
  | reversed
  | underflow
  | overflow
deriving Repr, DecidableEq

def byteSize : List Char → Nat
  | [] => 0
  | c :: rest => c.utf8Size + byteSize rest

/-- The text before an offset and the text from it on. -/
def splitAt : Nat → List Char → Except Fault (List Char × List Char)
  | 0, text => .ok ([], text)
  | _ + 1, [] => .error .outOfRange
  | n + 1, c :: rest =>
    if c.utf8Size ≤ n + 1 then (splitAt (n + 1 - c.utf8Size) rest).map fun p => (c :: p.1, p.2)
    else .error .insideCharacter

def sliceTo (stop : Nat) (text : List Char) : Except Fault (List Char) :=
  (splitAt stop text).map Prod.fst

def sliceFrom (start : Nat) (text : List Char) : Except Fault (List Char) :=
  (splitAt start text).map Prod.snd

def slice (start stop : Nat) (text : List Char) : Except Fault (List Char) :=
  if stop < start then .error .reversed else sliceTo stop text >>= sliceFrom start

/-- The characters of a text, each with the offset at which it starts. -/
def charIndices (offset : Nat) : List Char → List (Nat × Char)
  | [] => []
  | c :: rest => (offset, c) :: charIndices (offset + c.utf8Size) rest

/-- The offset of the first character of a kind. -/
def find? (p : Char → Bool) (text : List Char) : Option Nat :=
  ((charIndices 0 text).find? fun i => p i.2).map Prod.fst

section Size

theorem byteSize_append (text more : List Char) :
    byteSize (text ++ more) = byteSize text + byteSize more := by
  induction text with
  | nil => simp [byteSize]
  | cons c rest ih =>
    simp only [List.cons_append, byteSize, ih]
    omega

theorem byteSize_ofList (text : List Char) : (String.ofList text).utf8ByteSize = byteSize text := by
  induction text with
  | nil => rfl
  | cons c rest ih =>
    rw [String.ofList_cons, String.utf8ByteSize_append, String.utf8ByteSize_singleton, ih, byteSize]

theorem length_le_byteSize (text : List Char) : text.length ≤ byteSize text := by
  induction text with
  | nil => exact Nat.le_refl 0
  | cons c rest ih =>
    have positive := c.utf8Size_pos
    simp only [List.length_cons, byteSize]
    omega

theorem byteSize_eq_zero_iff {text : List Char} : byteSize text = 0 ↔ text = [] := by
  constructor
  · intro nothing
    have length := length_le_byteSize text
    exact List.eq_nil_of_length_eq_zero (by omega)
  · rintro rfl
    rfl

end Size

theorem splitAt_append (front rest : List Char) :
    splitAt (byteSize front) (front ++ rest) = pure (front, rest) := by
  induction front with
  | nil =>
    simp only [byteSize, splitAt]
    rfl
  | cons c front ih =>
    have positive := c.utf8Size_pos
    obtain ⟨n, size⟩ : ∃ n, byteSize (c :: front) = n + 1 :=
      Nat.exists_eq_add_one.2 (by simp only [byteSize]; omega)
    have fits : c.utf8Size ≤ n + 1 := by
      simp only [byteSize] at size
      omega
    have behind : n + 1 - c.utf8Size = byteSize front := by
      simp only [byteSize] at size
      omega
    rw [size, List.cons_append, splitAt, if_pos fits, behind, ih]
    rfl

theorem splitAt_eq_ok {n : Nat} {text front rest : List Char}
    (found : splitAt n text = .ok (front, rest)) : text = front ++ rest ∧ byteSize front = n := by
  fun_induction splitAt n text generalizing front with
  | case1 text =>
    cases found
    exact ⟨rfl, rfl⟩
  | case2 => cases found
  | case3 n c text fits ih =>
    cases later : splitAt (n + 1 - c.utf8Size) text with
    | error fault =>
      rw [later] at found
      cases found
    | ok pair =>
      rw [later] at found
      cases found
      obtain ⟨whole, size⟩ := ih later
      refine ⟨by rw [whole]; rfl, ?_⟩
      simp only [byteSize]
      omega
  | case4 => cases found

/- An offset is taken exactly if it stands between two characters of the text in UTF-8. -/
theorem splitAt_isOk_iff {n : Nat} {text : List Char} :
    (∃ pair, splitAt n text = .ok pair) ↔ String.Pos.Raw.IsValid (String.ofList text) ⟨n⟩ := by
  rw [String.Pos.Raw.isValid_iff_exists_append]
  constructor
  · rintro ⟨⟨front, rest⟩, found⟩
    obtain ⟨rfl, rfl⟩ := splitAt_eq_ok found
    exact ⟨String.ofList front, String.ofList rest, String.ofList_append,
      congrArg String.Pos.Raw.mk (byteSize_ofList front).symm⟩
  · rintro ⟨front, rest, whole, offset⟩
    have size : n = byteSize front.toList := by
      rw [← byteSize_ofList, String.ofList_toList]
      exact congrArg String.Pos.Raw.byteIdx offset
    have halves : text = front.toList ++ rest.toList := by
      rw [← String.toList_append, ← whole, String.toList_ofList]
    rw [size, halves]
    exact ⟨_, splitAt_append _ _⟩

example : splitAt 1 ['é'] = .error .insideCharacter := rfl

theorem sliceTo_append (front rest : List Char) :
    sliceTo (byteSize front) (front ++ rest) = pure front := by
  rw [sliceTo, splitAt_append]
  rfl

theorem sliceFrom_append (front rest : List Char) :
    sliceFrom (byteSize front) (front ++ rest) = pure rest := by
  rw [sliceFrom, splitAt_append]
  rfl

theorem slice_append (front piece rest : List Char) :
    slice (byteSize front) (byteSize (front ++ piece)) (front ++ piece ++ rest) = pure piece := by
  have ordered : ¬ byteSize (front ++ piece) < byteSize front := by
    rw [byteSize_append]
    omega
  rw [slice, if_neg ordered, sliceTo_append, pure_bind, sliceFrom_append]

/- Where nothing is found, the end of the text stands for it. -/
theorem find?_getD (p : Char → Bool) (text : List Char) :
    (find? p text).getD (byteSize text) = byteSize (text.takeWhile fun c => !p c) := by
  have shifted (offset : Nat) :
      (((charIndices offset text).find? fun i => p i.2).map Prod.fst).getD
        (offset + byteSize text) = offset + byteSize (text.takeWhile fun c => !p c) := by
    induction text generalizing offset with
    | nil => rfl
    | cons c rest ih =>
      rw [charIndices, List.find?_cons, List.takeWhile_cons]
      cases found : p c with
      | true => rfl
      | false =>
        have later := ih (offset + c.utf8Size)
        simpa [byteSize, Nat.add_assoc] using later
  simpa [find?] using shifted 0

end Commentary.Text
