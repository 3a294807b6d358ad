import SeqChart.Chart.Vocabulary
/-!
What each dialect can express.
-/

namespace SeqChart

/-- How an inline expression is delimited. -/
structure BlockForm where
  /-- Written in place of the kind. -/
  operator? : Option String
  opening : Char
  /-- Whether the opening stands apart from the heading where the layout has spaces. -/
  openingApart : Bool
  closing : Char
  /-- Whether a line ends after the closing whatever the layout. -/
  closingEndsLine : Bool
  /-- By how many levels the closing stands out from the heading. -/
  outdent : Nat

namespace Dialect

def options : Dialect → List OptionName
  | xu => OptionName.all
  | mscgen => [.text .hscale, .text .width, .text .arcgradient, .flag .wordwraparcs]

def attributes : Dialect → List String
  | xu => attributeNames
  | mscgen => attributeNames.filter (· != "title")

/-- Without inline expressions a block becomes a plain line, its rows follow it, and a comment marks
its end. -/
def blockForm : Dialect → BlockForm
  | xu => ⟨none, '\x7b', true, '\x7d', false, 0⟩
  | mscgen => ⟨some ArcKind.line.token, ';', false, '#', true, 1⟩

end Dialect

end SeqChart
