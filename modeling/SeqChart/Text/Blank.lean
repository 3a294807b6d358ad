import SeqChart.Text.Ranges
/-!
White space: what separates tokens, and what a line comment loses at its end.
-/

namespace SeqChart.Text

def blankRanges : Ranges :=
  [(0x9, 0xD), (0x1C, 0x20), (0x85, 0x85), (0xA0, 0xA0), (0x1680, 0x1680), (0x2000, 0x200A),
   (0x2028, 0x2029), (0x202F, 0x202F), (0x205F, 0x205F), (0x3000, 0x3000)]

def isBlank (c : Char) : Bool := blankRanges.has c.toNat

/-- The text without the blanks at its end. -/
def trimRight (s : List Char) : List Char :=
  s.reverse.dropWhile isBlank |>.reverse

end SeqChart.Text
