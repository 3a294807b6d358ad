import SeqChart.Proofs.Grammar.Lexis
/-!
The grammar of charts, over the words of `Grammar.Lexis`:

    chart      = 'msc' '{' [options] [entities] rows '}'
    options    = option (',' option)* ';'            option = name '=' value
    entities   = entity (',' entity)* ';'            entity = name [attributes]
    attributes = '[' [attribute (',' attribute)*] ']' attribute = name '=' value
    rows       = row*                                 row = arc (',' arc)* ';'
    arc        = empty [attributes] | end operator end [attributes] | name box name [attributes]
               | name inline name [attributes] '{' rows '}'

with layout before, between and after all words, where the semicolon of a row may be missing after
an inline expression. A rule also says what its text means. Comments count where they stand before
an entity or an arc, after the brace, comma or semicolon that precedes it.
-/

namespace SeqChart.Grammar

variable {α : Type}

/-- Items with commas between them. The comments after a comma belong to the item that follows;
those before the first one are given. -/
inductive ListOf (Item : List String → List Char → α → List Char → Prop) :
    List String → List Char → List α → List Char → Prop
  | one {before : List String} {s r : List Char} {a : α} :
      Item before s a r → ListOf Item before s [a] r
  | more {before comments : List String} {s t u v r : List Char} {a : α} {as : List α} :
      Item before s a t → Gap t (',' :: u) → Layout u comments v →
      ListOf Item comments v as r → ListOf Item before s (a :: as) r

/-! ## Options -/

/-- What a value sets an option to. -/
inductive Legal : OptionName → String → Setting String Bool → Prop
  | number {option : TextOption} {value : String} :
      option.isNumeric = true → Numeral value.toList →
      Legal (.text option) value (.text option value)
  | auto {value : String} :
      Text.lowerText value = "auto" → Legal (.text .width) value (.text .width "auto")
  | watermark {value : String} : Legal (.text .watermark) value (.text .watermark value)
  | on {option : FlagOption} {value : String} :
      Text.lowerText value ∈ trueWords → Legal (.flag option) value (.flag option true)
  | off {option : FlagOption} {value : String} :
      Text.lowerText value ∈ falseWords → Legal (.flag option) value (.flag option false)

inductive OptionItem : List Char → Setting String Bool → List Char → Prop
  | mk {s t u v r : List Char} {option : OptionName} {value : String}
      {setting : Setting String Bool} :
      Keyword option.name s t → Gap t ('=' :: u) → Gap u v → Value v value r →
      Legal option value setting → OptionItem s setting r

/-- A word stands here with an equals sign behind it. An option starts so, and so does a message
from a bare name with an operator such as `=>`. -/
def Assigns (s : List Char) : Prop := ∃ word t u, Word s word t ∧ Gap t ('=' :: u)

/-- The options of a chart. Comments before what follows them take the place of those before. -/
inductive OptionsPart : List String → List Char → Options String Bool String → List String →
    List Char → Prop
  | absent {before : List String} {s : List Char} : OptionsPart before s {} before s
  | present {before comments : List String} {s t u r : List Char}
      {settings : List (Setting String Bool)} :
      ListOf (fun _ => OptionItem) [] s settings t → Gap t (';' :: u) → Layout u comments r →
      OptionsPart before s (Options.ofSettings settings) comments r

/-! ## Attributes and entities -/

inductive Assignment : List Char → String × String → List Char → Prop
  | mk {s t u v r key : List Char} {name value : String} :
      Word s key t → attributeName? (String.ofList key) = some name → Gap t ('=' :: u) → Gap u v →
      Value v value r → Assignment s (name, value) r

/-- Attributes, if there are any. Of equal keys the last value counts. -/
inductive Attributes : List Char → Mapping String String → List Char → Prop
  | absent {s : List Char} : Attributes s ∅ s
  | empty {s t r : List Char} : Gap s ('[' :: t) → Gap t (']' :: r) → Attributes s ∅ r
  | some {s t u v r : List Char} {pairs : List (String × String)} :
      Gap s ('[' :: t) → Gap t u → ListOf (fun _ => Assignment) [] u pairs v →
      Gap v (']' :: r) → Attributes s (Mapping.ofList pairs) r

inductive EntityItem : List String → List Char → Entity String String → List Char → Prop
  | mk {before : List String} {s t r : List Char} {name : String} {attrs : Mapping String String} :
      Name s name t → Attributes t attrs r →
      EntityItem before s { name, attrs, comments := before } r

/-- The entities of a chart. Comments before what follows them take the place of those before. -/
inductive EntitiesPart : List String → List Char → List (Entity String String) → List String →
    List Char → Prop
  | absent {before : List String} {s : List Char} : EntitiesPart before s [] before s
  | present {before comments : List String} {s t u r : List Char}
      {entities : List (Entity String String)} :
      ListOf EntityItem before s entities t → Gap t (';' :: u) → Layout u comments r →
      EntitiesPart before s entities comments r

/-! ## Arcs and rows

`Block` stands for what may be between the braces of an inline expression. -/

section

variable (Block : List Char → Rows String String → List Char → Prop)

inductive ArcItem : List String → List Char → Arc String String → List Char → Prop
  | empty {before : List String} {s r : List Char} {kind : EmptyKind}
      {attrs : Mapping String String} :
      Attributes s attrs r →
      ArcItem before (kind.token.toList ++ s) (.empty kind attrs before) r
  | message {before : List String} {s t u v w x r : List Char} {source target : String}
      {kind : ArcKind} {attrs : Mapping String String} :
      End s source t → Gap t u → Operator u kind v → Gap v w → End w target x →
      Attributes x attrs r → ArcItem before s (.message kind source target attrs before) r
  | box {before : List String} {s t u v w x r : List Char} {source target : String}
      {kind : BoxKind} {attrs : Mapping String String} :
      Name s source t → source ≠ broadcast → Gap t u → Keyword kind.token u v → Gap v w →
      Name w target x → Attributes x attrs r →
      ArcItem before s (.box kind source target attrs before) r
  | inline {before : List String} {s t u v w x y z b r : List Char} {source target : String}
      {kind : InlineKind} {rows : Rows String String} {attrs : Mapping String String} :
      Name s source t → source ≠ broadcast → Gap t u → Keyword kind.token u v → Gap v w →
      Name w target x → Attributes x attrs y → Gap y ('\x7b' :: z) → Block z rows b →
      Gap b ('\x7d' :: r) → ArcItem before s (.inline kind source target rows attrs before) r

/-- Rows, the first of them with the comments before it. A row without a semicolon ends with an
inline expression, and the comments after it are lost. -/
inductive RowList : List String → List Char → Rows String String → List Char → Prop
  | nil {before : List String} {s : List Char} : RowList before s [] s
  | closed {before comments : List String} {s t u v r : List Char}
      {row : List (Arc String String)} {rows : Rows String String} :
      ListOf (ArcItem Block) before s row t → Gap t (';' :: u) → Layout u comments v →
      RowList comments v rows r → RowList before s (row :: rows) r
  | unclosed {before : List String} {s t u r : List Char} {row : List (Arc String String)}
      {rows : Rows String String} :
      ListOf (ArcItem Block) before s row t → (∃ arc ∈ row.getLast?, arc.isInline = true) →
      Gap t u → RowList [] u rows r → RowList before s (row :: rows) r

/-- A row and what leads from it to where the next one may start. The comments are those of the next
one. -/
inductive RowAhead :
    List String → List Char → List (Arc String String) → List String → List Char → Prop
  | closed {before comments : List String} {s t u r : List Char} {row : List (Arc String String)} :
      ListOf (ArcItem Block) before s row t → Gap t (';' :: u) → Layout u comments r →
      RowAhead before s row comments r
  | unclosed {before : List String} {s t r : List Char} {row : List (Arc String String)} :
      ListOf (ArcItem Block) before s row t → (∃ arc ∈ row.getLast?, arc.isInline = true) →
      Gap t r → RowAhead before s row [] r

end

/-- An inline expression up to and with its keyword. -/
inductive InlineStart : List Char → InlineKind → String → List Char → Prop
  | mk {s t u v : List Char} {kind : InlineKind} {source : String} :
      Name s source t → source ≠ broadcast → Gap t u → Keyword kind.token u v →
      InlineStart s kind source v

/-- An inline expression up to and with its opening brace. -/
inductive InlineHead : List Char → InlineKind → String → String → Mapping String String →
    List Char → Prop
  | mk {s v w x y z : List Char} {kind : InlineKind} {source target : String}
      {attrs : Mapping String String} :
      InlineStart s kind source v → Gap v w → Name w target x → Attributes x attrs y →
      Gap y ('\x7b' :: z) → InlineHead s kind source target attrs z

section

variable {Block : List Char → Rows String String → List Char → Prop}

theorem ArcItem.of_head {before : List String} {s b r u : List Char} {kind : InlineKind}
    {source target : String} {attrs : Mapping String String} {rows : Rows String String}
    (head : InlineHead s kind source target attrs u) (inside : Block u rows b)
    (closed : Gap b ('\x7d' :: r)) :
    ArcItem Block before s (.inline kind source target rows attrs before) r := by
  obtain ⟨⟨named, other, gap, keyword⟩, gap', named', stands, opened⟩ := head
  exact .inline named other gap keyword gap' named' stands opened inside closed

theorem ArcItem.head {before : List String} {s r : List Char} {kind : InlineKind}
    {source target : String} {attrs : Mapping String String} {rows : Rows String String}
    {comments : List String}
    (item : ArcItem Block before s (.inline kind source target rows attrs comments) r) :
    comments = before ∧ ∃ u b, InlineHead s kind source target attrs u ∧ Block u rows b ∧
      Gap b ('\x7d' :: r) := by
  cases item with
  | inline named other gap keyword gap' named' stands opened inside closed =>
    exact ⟨rfl, _, _, ⟨⟨named, other, gap, keyword⟩, gap', named', stands, opened⟩, inside, closed⟩

theorem RowAhead.rowList {before comments : List String} {s t r : List Char}
    {row : List (Arc String String)} {rows : Rows String String}
    (ahead : RowAhead Block before s row comments t) (more : RowList Block comments t rows r) :
    RowList Block before s (row :: rows) r := by
  cases ahead with
  | closed list closed layout => exact .closed list closed layout more
  | unclosed list last gap => exact .unclosed list last gap more

end

/-- What is between braces when blocks may nest in it one level less than `levels` deep. -/
def Block : Nat → List Char → Rows String String → List Char → Prop
  | 0, _, _, _ => False
  | levels + 1, s, rows, r =>
    ∃ comments t, Layout s comments t ∧ RowList (Block levels) comments t rows r

/-! ## Charts -/

/-- What is between the braces of a chart, with the comments before it. -/
inductive Body (levels : Nat) : List String → List Char → Content String String
    (Options String Bool String) → List Char → Prop
  | mk {before between after : List String} {s t u r : List Char}
      {options : Options String Bool String} {entities : List (Entity String String)}
      {rows : Rows String String} :
      OptionsPart before s options between t → EntitiesPart between t entities after u →
      RowList (Block levels) after u rows r → Body levels before s { options, entities, rows } r

/-- The texts of charts whose inline expressions nest at most `levels` deep. -/
inductive Program (levels : Nat) : List Char → Chart → Prop
  | mk {head before : List String} {source s t u v w r : List Char}
      {content : Content String String (Options String Bool String)} :
      Layout source head s → Keyword "msc" s t → Gap t ('\x7b' :: u) → Layout u before v →
      Body levels before v content w → Gap w ('\x7d' :: r) → Gap r [] →
      Program levels source { content with comments := head }

/-- The brace of a chart opens on what an option starts with. -/
def OpensWithAssignment (source : List Char) : Prop :=
  ∃ head before s t u v, Layout source head s ∧ Keyword "msc" s t ∧ Gap t ('\x7b' :: u) ∧
    Layout u before v ∧ Assigns v

/-- A chart up to and with its closing brace. -/
inductive Braced (levels : Nat) : List Char → Chart → List Char → Prop
  | mk {head before : List String} {source s t u v w r : List Char}
      {content : Content String String (Options String Bool String)} :
      Layout source head s → Keyword "msc" s t → Gap t ('\x7b' :: u) → Layout u before v →
      Body levels before v content w → Gap w ('\x7d' :: r) →
      Braced levels source { content with comments := head } r

end SeqChart.Grammar
