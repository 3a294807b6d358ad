import SeqChart.Chart.Basic
import SeqChart.Text.Blank
import SeqChart.Text.Word
/-!
The words of the language of charts, as relations between texts.

`X s a r` says that `s` starts with an `X` that means `a`, and that `r` is what follows it. Nothing
is looked up further ahead than the rule of the word itself asks for: a word of letters is as long
as can be, a line comment runs to the end of its line, and of the operators the longest counts.
-/

namespace SeqChart.Grammar

/-! ## Layout -/

/-- No layout starts here. -/
def Solid : List Char → Prop
  | '#' :: _ => False
  | '/' :: '/' :: _ => False
  | '/' :: '*' :: _ => False
  | c :: _ => Text.isBlank c = false
  | [] => True

/-- A comment that its first `*/` closes. -/
def BlockComment (text : List Char) : Prop :=
  ∃ body, text = '/' :: '*' :: body ++ ['*', '/'] ∧ ¬ ['*', '/'] <:+: body ++ ['*']

/-- A comment within one line. -/
structure LineComment (text : List Char) : Prop where
  marked : ['#'] <+: text ∨ ['/', '/'] <+: text
  inLine : ∀ c ∈ text, c ≠ '\r' ∧ c ≠ '\n'

/-- Here a line ends, or the text. -/
def EndsLine (s : List Char) : Prop := ∀ c ∈ s.head?, c = '\r' ∨ c = '\n'

/-- Blanks and comments, with the comments in order. A line comment loses the blanks at its end. -/
inductive Layout : List Char → List String → List Char → Prop
  | done {s : List Char} : Layout s [] s
  | blank {c : Char} {s r : List Char} {comments : List String} :
      Text.isBlank c = true → Layout s comments r → Layout (c :: s) comments r
  | block {text s r : List Char} {comments : List String} :
      BlockComment text → Layout s comments r →
      Layout (text ++ s) (String.ofList text :: comments) r
  | line {text s r : List Char} {comments : List String} :
      LineComment text → EndsLine s → Layout s comments r →
      Layout (text ++ s) (String.ofList (Text.trimRight text) :: comments) r

/-- Layout whose comments belong to nothing. -/
def Gap (s r : List Char) : Prop := ∃ comments, Layout s comments r

/-! ## Words, strings and numbers -/

/-- Here no word goes on. -/
def EndsWord (s : List Char) : Prop := ∀ c ∈ s.head?, Text.isWord c = false

/-- The whole word that stands here. -/
structure Word (s word r : List Char) : Prop where
  text : s = word ++ r
  nonempty : word ≠ []
  letters : ∀ c ∈ word, Text.isWord c = true
  whole : EndsWord r

/-- A word that is the token but for its case. -/
def Keyword (token : String) (s r : List Char) : Prop :=
  ∃ word, Word s word r ∧ Text.lowerText (String.ofList word) = token

/-- The rest of a quoted string after its opening quote. A backslash belongs to the character after
it; only before a quote does it vanish. -/
inductive QuotedRest : List Char → List Char → List Char → Prop
  | close {r : List Char} : QuotedRest ('"' :: r) [] r
  | quote {s v r : List Char} : QuotedRest s v r → QuotedRest ('\\' :: '"' :: s) ('"' :: v) r
  | pair {c : Char} {s v r : List Char} :
      c ≠ '"' → QuotedRest s v r → QuotedRest ('\\' :: c :: s) ('\\' :: c :: v) r
  | plain {c : Char} {s v r : List Char} :
      c ≠ '"' → c ≠ '\\' → QuotedRest s v r → QuotedRest (c :: s) (c :: v) r

def Quoted (s v r : List Char) : Prop := ∃ inside, s = '"' :: inside ∧ QuotedRest inside v r

/-- Digits around a point, of which those before it may be missing. -/
def Decimal (v : List Char) : Prop :=
  ∃ whole places, v = whole ++ '.' :: places ∧ places ≠ [] ∧
    ∀ c ∈ whole ++ places, Text.isDigit c = true

/-- What an option that takes a number may be set to. -/
def Numeral (v : List Char) : Prop := Decimal v ∨ (v ≠ [] ∧ ∀ c ∈ v, Text.isDigit c = true)

/-- A decimal that stands here with no word going on behind it. -/
structure Fraction (s v r : List Char) : Prop where
  text : s = v ++ r
  decimal : Decimal v
  whole : EndsWord r

/-- The value of an option or an attribute. A bare one is a decimal if it can be, else a word. -/
inductive Value : List Char → String → List Char → Prop
  | quoted {s v r : List Char} : Quoted s v r → Value s (String.ofList v) r
  | fraction {s v r : List Char} : Fraction s v r → Value s (String.ofList v) r
  | word {s v r : List Char} :
      Word s v r → (∀ v' r', ¬ Fraction s v' r') → Value s (String.ofList v) r

/-! ## Names and operators -/

/-- The name of an entity: a word that is not reserved, or any text between quotes but the empty
one. -/
inductive Name : List Char → String → List Char → Prop
  | bare {s v r : List Char} :
      Word s v r → Text.lowerText (String.ofList v) ∉ reservedWords → Name s (String.ofList v) r
  | quoted {s v r : List Char} : Quoted s v r → v ≠ [] → Name s (String.ofList v) r

/-- An end of a message. -/
inductive End : List Char → String → List Char → Prop
  | all {r : List Char} : End ('*' :: r) broadcast r
  | name {s r : List Char} {n : String} : Name s n r → End s n r

/-- The longest arc operator that stands here. -/
structure Operator (s : List Char) (kind : ArcKind) (r : List Char) : Prop where
  text : s = kind.token.toList ++ r
  longest : ∀ other : ArcKind, other.token.toList <+: s →
    other.token.toList.length ≤ kind.token.toList.length

end SeqChart.Grammar
