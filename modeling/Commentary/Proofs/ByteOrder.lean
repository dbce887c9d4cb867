import Mathlib.Data.List.Basic
import Mathlib.Tactic.SplitIfs

/-! Texts are compared character by character. In UTF-8 this is the order of their bytes, so
ascending keys are ascending byte strings. -/
namespace Commentary.Text

/-- The bytes of a text in UTF-8. -/
def bytes (text : String) : List UInt8 :=
  text.toByteArray.data.toList

theorem bytes_eq_flatMap (text : String) :
    bytes text = text.toList.flatMap String.utf8EncodeChar := by
  rw [bytes, ← String.utf8Encode_toList, List.utf8Encode, List.toList_data_toByteArray]

/-- A lower byte decides, and equal bytes leave it to what follows. -/
theorem cons_lt_of_le {m n : Nat} {x y : List UInt8} (le : m ≤ n) (small : n < 256)
    (tail : m = n → x < y) : UInt8.ofNat m :: x < UInt8.ofNat n :: y := by
  rw [List.cons_lt_cons_iff]
  rcases Nat.lt_or_eq_of_le le with less | equal
  · left
    rw [UInt8.lt_iff_toNat_lt, UInt8.toNat_ofNat', UInt8.toNat_ofNat']
    omega
  · exact .inr ⟨congrArg UInt8.ofNat equal, tail equal⟩

/- The lead byte grows with the number of bytes, and with equal numbers of bytes the digits to
the base 64 are compared from the highest on. No encoding is the start of another one, so what
follows the two characters has no say. -/
theorem encode_lt {a b : Char} (less : a < b) (x y : List UInt8) :
    String.utf8EncodeChar a ++ x < String.utf8EncodeChar b ++ y := by
  have order : a.val.toNat < b.val.toNat := less
  have bound : b.val.toNat < 0x110000 := by
    have valid := b.valid
    simp only [UInt32.isValidChar, Nat.isValidChar] at valid
    omega
  simp only [String.utf8EncodeChar]
  generalize a.val.toNat = v at *
  generalize b.val.toNat = w at *
  split_ifs <;> try omega
  all_goals
    simp only [List.cons_append, List.nil_append]
    repeat' first
      | omega
      | refine cons_lt_of_le ?_ ?_ fun equal => ?_

theorem flatMap_encode_lt {l m : List Char} (less : l < m) :
    l.flatMap String.utf8EncodeChar < m.flatMap String.utf8EncodeChar := by
  induction less with
  | @nil b m =>
    obtain ⟨first, rest, shape⟩ :=
      List.exists_cons_of_ne_nil (String.utf8EncodeChar_ne_nil (c := b))
    rw [List.flatMap_nil, List.flatMap_cons, shape, List.cons_append]
    exact List.nil_lt_cons first _
  | rel lower =>
    rw [List.flatMap_cons, List.flatMap_cons]
    exact encode_lt lower _ _
  | cons _ ih =>
    rw [List.flatMap_cons, List.flatMap_cons]
    exact List.append_left_lt ih

theorem bytes_lt_of_lt {a b : String} (less : a < b) : bytes a < bytes b := by
  rw [bytes_eq_flatMap, bytes_eq_flatMap]
  exact flatMap_encode_lt less

theorem bytes_lt_iff {a b : String} : bytes a < bytes b ↔ a < b := by
  constructor
  · intro less
    rcases Std.lt_trichotomy a b with lower | rfl | higher
    · exact lower
    · exact absurd less (List.lt_irrefl _)
    · exact absurd less (List.lt_asymm (bytes_lt_of_lt higher))
  · exact bytes_lt_of_lt

end Commentary.Text
