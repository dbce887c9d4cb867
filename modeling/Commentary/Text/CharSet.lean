/-! Character classes given by tables of inclusive code point ranges. -/
namespace Commentary.Text

def inRanges (ranges : List (Nat × Nat)) (c : Char) : Bool :=
  ranges.any fun range => range.1 ≤ c.toNat && c.toNat ≤ range.2

end Commentary.Text
