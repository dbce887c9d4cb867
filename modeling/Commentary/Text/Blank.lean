import Commentary.Text.CharSet

/-! White space: the Unicode property White_Space. The zero width space and the byte order
mark are not in it. -/
namespace Commentary.Text

def blankRanges : List (Nat × Nat) :=
  [(9, 13), (32, 32), (133, 133), (160, 160), (5760, 5760), (8192, 8202), (8232, 8233),
   (8239, 8239), (8287, 8287), (12288, 12288)]

def isBlank (c : Char) : Bool :=
  inRanges blankRanges c

/-- A line with nothing but white space on it. -/
def isBlankLine (line : List Char) : Bool :=
  line.all isBlank

end Commentary.Text
