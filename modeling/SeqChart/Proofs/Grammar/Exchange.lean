import Mathlib.Data.List.Basic
import Mathlib.Logic.Relation
import SeqChart.Proofs.Reading.Lexis
import SeqChart.Proofs.Grammar.Syntax
/-!
Texts with another end. What a rule makes of a text up to some place it also makes of the text with
something else from that place on, if what stands there now ends words and line comments as well and
lengthens no operator. Main statement, `body_exchanges`, over the statements for the rules before
it.

A bare value is the one word that depends on more than the character behind it: `1` stands before
`.5a`, and does not stand before `.5`. So it must not be a point that is left behind a value.
-/

namespace SeqChart.Grammar

variable {α : Type}

/-- From here on a text may go on otherwise: with a new line, or after the same character, if that
is part of no operator. -/
inductive Exchange : List Char → List Char → Prop
  | line (z t : List Char) : Exchange z ('\n' :: t)
  | same {c : Char} (apart : ∀ kind : ArcKind, c ∉ kind.token.toList) (t t' : List Char) :
      Exchange (c :: t) (c :: t')

/-- What the rule says of a text up to a place before the one end it says with the other
end, too. -/
def Exchanges (z z' : List Char) (R : List Char → List Char → Prop) : Prop :=
  ∀ ⦃s y⦄, R s (y ++ z) → ∃ x, s = x ++ z ∧ R (x ++ z') (y ++ z')

/-! ## The other end -/

namespace Exchange

variable {z z' : List Char}

theorem brace (t t' : List Char) : Exchange ('\x7d' :: t) ('\x7d' :: t') :=
  .same (fun kind => by cases kind <;> decide) t t'

theorem head (exchange : Exchange z z') :
    ∃ c t, z' = c :: t ∧ ∀ kind : ArcKind, c ∉ kind.token.toList := by
  cases exchange with
  | line t => exact ⟨_, _, rfl, fun kind => by cases kind <;> decide⟩
  | same apart => exact ⟨_, _, rfl, apart⟩

theorem endsWord (exchange : Exchange z z') {y : List Char} (ends : EndsWord (y ++ z)) :
    EndsWord (y ++ z') := by
  cases y with
  | nil =>
    cases exchange with
    | line => exact fun d first => by cases first; decide
    | same => exact ends
  | cons c y => exact ends

theorem endsLine (exchange : Exchange z z') {y : List Char} (ends : EndsLine (y ++ z)) :
    EndsLine (y ++ z') := by
  cases y with
  | nil =>
    cases exchange with
    | line => exact fun d first => by cases first; exact .inr rfl
    | same => exact ends
  | cons c y => exact ends

/-- No operator reaches into the other end. -/
theorem prefix_of_append (exchange : Exchange z z') {kind : ArcKind} {x : List Char}
    (starts : kind.token.toList <+: x ++ z') : kind.token.toList <+: x := by
  obtain ⟨c, t, rfl, apart⟩ := exchange.head
  rcases List.prefix_or_prefix_of_prefix starts (List.prefix_append x (c :: t)) with
    inside | ⟨more, longer⟩
  · exact inside
  · cases more with
    | nil => simp [← longer]
    | cons d more =>
      rw [← longer, List.prefix_append_right_inj, List.cons_prefix_cons] at starts
      obtain ⟨rfl, -⟩ := starts
      exact absurd (by simp [← longer]) (apart kind)

end Exchange

theorem Exchanges.comp {z z' : List Char} {R Q : List Char → List Char → Prop}
    (first : Exchanges z z' R) (next : Exchanges z z' Q) :
    Exchanges z z' (Relation.Comp R Q) := by
  rintro s y ⟨t, took, took'⟩
  obtain ⟨u, rfl, next'⟩ := next took'
  obtain ⟨x, text, first'⟩ := first took
  exact ⟨x, text, _, first', next'⟩

/-- What stands before the place is the same, whatever the other end is. -/
theorem exists_exchange {z : List Char} {z' : List Char → List Char}
    {R : List Char → List Char → Prop} (exchanges : ∀ t, Exchanges z (z' t) R) {s y : List Char}
    (took : R s (y ++ z)) : ∃ x, s = x ++ z ∧ ∀ t, R (x ++ z' t) (y ++ z' t) := by
  obtain ⟨x, text, -⟩ := exchanges [] took
  refine ⟨x, text, fun t => ?_⟩
  obtain ⟨x', text', took'⟩ := exchanges t took
  obtain rfl := List.append_cancel_right (text.symm.trans text')
  exact took'

section

variable {z z' : List Char} (exchange : Exchange z z')

/-! ## Layout and words -/

theorem layout_exchanges' (ends : EndsLine z → EndsLine z') (comments : List String) :
    Exchanges z z' (Layout · comments ·) := by
  intro s y layout
  generalize same : y ++ z = r at layout
  induction layout with
  | done => exact ⟨y, same.symm, .done⟩
  | @blank c _ _ _ blank _ step =>
    obtain ⟨x, rfl, layout⟩ := step same
    exact ⟨c :: x, rfl, .blank blank layout⟩
  | @block text _ _ _ closed _ step =>
    obtain ⟨x, rfl, layout⟩ := step same
    exact ⟨text ++ x, (List.append_assoc ..).symm,
      List.append_assoc text x z' ▸ .block closed layout⟩
  | @line text _ _ _ inLine ends' _ step =>
    obtain ⟨x, rfl, layout⟩ := step same
    refine ⟨text ++ x, (List.append_assoc ..).symm,
      List.append_assoc text x z' ▸ .line inLine ?_ layout⟩
    cases x with
    | nil => exact ends ends'
    | cons c x => exact ends'

include exchange

theorem layout_exchanges (comments : List String) : Exchanges z z' (Layout · comments ·) :=
  layout_exchanges' (exchange.endsLine (y := [])) comments

theorem gap_exchanges : Exchanges z z' Gap := by
  rintro s y ⟨comments, layout⟩
  obtain ⟨x, text, layout'⟩ := layout_exchanges exchange comments layout
  exact ⟨x, text, comments, layout'⟩

theorem gap_cons_exchanges (c : Char) : Exchanges z z' fun s r => Gap s (c :: r) :=
  fun _ y gap => gap_exchanges exchange (y := c :: y) gap

theorem word_exchanges (w : List Char) : Exchanges z z' (Word · w ·) := by
  rintro s y ⟨text, nonempty, letters, ends⟩
  exact ⟨w ++ y, by rw [text, List.append_assoc], List.append_assoc .., nonempty, letters,
    exchange.endsWord ends⟩

theorem keyword_exchanges (token : String) : Exchanges z z' (Keyword token) := by
  rintro s y ⟨w, word, lowered⟩
  obtain ⟨x, text, word'⟩ := word_exchanges exchange w word
  exact ⟨x, text, w, word', lowered⟩

omit exchange in
theorem quotedRest_exchanges (v : List Char) : Exchanges z z' (QuotedRest · v ·) := by
  intro s y rest
  generalize same : y ++ z = r at rest
  induction rest with
  | close => exact ⟨'"' :: y, by rw [← same]; rfl, .close⟩
  | quote _ step =>
    obtain ⟨x, rfl, rest⟩ := step same
    exact ⟨_ :: _ :: x, rfl, .quote rest⟩
  | pair other _ step =>
    obtain ⟨x, rfl, rest⟩ := step same
    exact ⟨_ :: _ :: x, rfl, .pair other rest⟩
  | plain other other' _ step =>
    obtain ⟨x, rfl, rest⟩ := step same
    exact ⟨_ :: x, rfl, .plain other other' rest⟩

omit exchange in
theorem quoted_exchanges (v : List Char) : Exchanges z z' (Quoted · v ·) := by
  rintro s y ⟨inside, text, rest⟩
  obtain ⟨x, rfl, rest'⟩ := quotedRest_exchanges v rest
  exact ⟨'"' :: x, text, _, rfl, rest'⟩

theorem fraction_exchanges (v : List Char) : Exchanges z z' (Fraction · v ·) := by
  rintro s y ⟨text, decimal, ends⟩
  exact ⟨v ++ y, by rw [text, List.append_assoc], List.append_assoc .., decimal,
    exchange.endsWord ends⟩

omit exchange in
/-- Where a decimal starts with a word, the word ends at its point. -/
theorem Word.point_of_fraction {s w t v r : List Char} (word : Word s w t)
    (fraction : Fraction s v r) : t.head? = some '.' := by
  obtain ⟨rfl, ⟨whole, places, rfl, -, digits⟩, -⟩ := fraction
  have letters : ∀ c ∈ whole, Text.isWord c = true := fun c member =>
    Text.isWord_of_isDigit (digits c (List.mem_append_left _ member))
  have ends := word.dropWhile
  rw [List.append_assoc, dropWhile_of_stops letters fun c first => by cases first; decide] at ends
  rw [← ends]
  rfl

/-- No point may be left behind a bare value. -/
theorem value_exchanges {v : String} {s y : List Char} (noPoint : y.head? ≠ some '.')
    (value : Value s v (y ++ z)) : ∃ x, s = x ++ z ∧ Value (x ++ z') v (y ++ z') := by
  cases value with
  | quoted quoted =>
    obtain ⟨x, text, quoted'⟩ := quoted_exchanges _ quoted
    exact ⟨x, text, .quoted quoted'⟩
  | fraction fraction =>
    obtain ⟨x, text, fraction'⟩ := fraction_exchanges exchange _ fraction
    exact ⟨x, text, .fraction fraction'⟩
  | word word other =>
    obtain ⟨x, text, word'⟩ := word_exchanges exchange _ word
    refine ⟨x, text, .word word' fun v' r' fraction => ?_⟩
    have point := word'.point_of_fraction fraction
    cases y with
    | nil =>
      obtain ⟨c, t, rfl, apart⟩ := exchange.head
      cases point
      exact apart .dotted (by decide)
    | cons c y => exact noPoint point

theorem name_exchanges (n : String) : Exchanges z z' (Name · n ·) := by
  intro s y named
  cases named with
  | bare word free =>
    obtain ⟨x, text, word'⟩ := word_exchanges exchange _ word
    exact ⟨x, text, .bare word' free⟩
  | quoted quoted nonempty =>
    obtain ⟨x, text, quoted'⟩ := quoted_exchanges _ quoted
    exact ⟨x, text, .quoted quoted' nonempty⟩

theorem end_exchanges (n : String) : Exchanges z z' (End · n ·) := by
  intro s y ended
  generalize same : y ++ z = r at ended
  cases ended with
  | all => exact ⟨'*' :: y, by rw [← same]; rfl, .all⟩
  | name named =>
    obtain ⟨x, text, named'⟩ := name_exchanges exchange n (same ▸ named)
    exact ⟨x, text, .name named'⟩

theorem operator_exchanges (kind : ArcKind) : Exchanges z z' (Operator · kind ·) := by
  rintro s y ⟨text, longest⟩
  refine ⟨kind.token.toList ++ y, by rw [text, List.append_assoc], List.append_assoc ..,
    fun other starts => longest other ?_⟩
  rw [text, ← List.append_assoc]
  exact (exchange.prefix_of_append starts).trans (List.prefix_append _ _)

/-! ## Lists, options, attributes and entities -/

section

variable {Item : List String → List Char → α → List Char → Prop}

/-- The items of a list may need something of what is left behind them, if what leads to a comma has
it. -/
theorem list_exchanges (Left : List Char → Prop)
    (items : ∀ before a ⦃s y⦄, Left y → Item before s a (y ++ z) →
      ∃ x, s = x ++ z ∧ Item before (x ++ z') a (y ++ z'))
    (comma : ∀ ⦃y u⦄, Gap (y ++ z) (',' :: u) → Left y) {before : List String} {as : List α}
    {s y : List Char} (left : Left y) (list : ListOf Item before s as (y ++ z)) :
    ∃ x, s = x ++ z ∧ ListOf Item before (x ++ z') as (y ++ z') := by
  generalize same : y ++ z = r at list
  induction list with
  | one item =>
    obtain ⟨x, text, item'⟩ := items _ _ left (same ▸ item)
    exact ⟨x, text, .one item'⟩
  | more item gap layout _ step =>
    obtain ⟨v, rfl, list⟩ := step same
    obtain ⟨u, rfl, layout'⟩ := layout_exchanges exchange _ layout
    obtain ⟨t, rfl, gap'⟩ := gap_exchanges exchange (y := ',' :: u) gap
    obtain ⟨x, text, item'⟩ := items _ _ (comma gap) item
    exact ⟨x, text, .more item' gap' layout' list⟩

end

omit exchange in
/-- What layout leads to stands there from the start, or no point does. -/
theorem Layout.eq_or_no_point {s r : List Char} {comments : List String}
    (layout : Layout s comments r) : s = r ∨ s.head? ≠ some '.' := by
  cases layout with
  | done => exact .inl rfl
  | blank blank _ =>
    right
    rintro ⟨⟩
    exact absurd blank (by decide)
  | block closed _ =>
    obtain ⟨rest, rfl⟩ := closed.starts
    exact .inr (by simp)
  | line inLine _ _ =>
    obtain ⟨rest, rfl | rfl⟩ := inLine.starts <;> exact .inr (by simp)

omit exchange in
theorem Gap.no_point {y u : List Char} {c : Char} (gap : Gap (y ++ z) (c :: u)) (other : c ≠ '.') :
    y.head? ≠ some '.' := by
  obtain ⟨comments, layout⟩ := gap
  intro point
  have first : (y ++ z).head? = some '.' := by simp [point]
  rcases layout.eq_or_no_point with same | noPoint
  · rw [same] at first
    exact other (Option.some.inj first)
  · exact noPoint first

theorem optionItem_exchanges {setting : Setting String Bool} {s y : List Char}
    (noPoint : y.head? ≠ some '.') (item : OptionItem s setting (y ++ z)) :
    ∃ x, s = x ++ z ∧ OptionItem (x ++ z') setting (y ++ z') := by
  obtain ⟨keyword, gap, gap', value, legal⟩ := item
  obtain ⟨v, rfl, value'⟩ := value_exchanges exchange noPoint value
  obtain ⟨u, rfl, after'⟩ := gap_exchanges exchange gap'
  obtain ⟨t, rfl, before'⟩ := gap_exchanges exchange (y := '=' :: u) gap
  obtain ⟨x, text, keyword'⟩ := keyword_exchanges exchange _ keyword
  exact ⟨x, text, .mk keyword' before' after' value' legal⟩

theorem options_exchanges {settings : List (Setting String Bool)} {s y : List Char}
    (noPoint : y.head? ≠ some '.')
    (list : ListOf (fun _ => OptionItem) [] s settings (y ++ z)) :
    ∃ x, s = x ++ z ∧ ListOf (fun _ => OptionItem) [] (x ++ z') settings (y ++ z') :=
  list_exchanges exchange (·.head? ≠ some '.')
    (fun _ _ _ _ noPoint item => optionItem_exchanges exchange noPoint item)
    (fun _ _ gap => gap.no_point (by decide)) noPoint list

theorem optionsPart_exchanges (before next : List String) (options : Options String Bool String) :
    Exchanges z z' (OptionsPart before · options next ·) := by
  intro s y part
  generalize same : y ++ z = r at part
  cases part with
  | absent => exact ⟨y, same.symm, .absent⟩
  | present list gap layout =>
    obtain ⟨u, rfl, layout'⟩ := layout_exchanges exchange _ (same ▸ layout)
    obtain ⟨t, rfl, gap'⟩ := gap_exchanges exchange (y := ';' :: u) gap
    obtain ⟨x, text, list'⟩ := options_exchanges exchange (gap.no_point (by decide)) list
    exact ⟨x, text, .present list' gap' layout'⟩

theorem assignment_exchanges {pair : String × String} {s y : List Char}
    (noPoint : y.head? ≠ some '.') (item : Assignment s pair (y ++ z)) :
    ∃ x, s = x ++ z ∧ Assignment (x ++ z') pair (y ++ z') := by
  obtain ⟨word, known, gap, gap', value⟩ := item
  obtain ⟨v, rfl, value'⟩ := value_exchanges exchange noPoint value
  obtain ⟨u, rfl, after'⟩ := gap_exchanges exchange gap'
  obtain ⟨t, rfl, before'⟩ := gap_exchanges exchange (y := '=' :: u) gap
  obtain ⟨x, text, word'⟩ := word_exchanges exchange _ word
  exact ⟨x, text, .mk word' known before' after' value'⟩

theorem assignments_exchanges {pairs : List (String × String)} {s y : List Char}
    (noPoint : y.head? ≠ some '.') (list : ListOf (fun _ => Assignment) [] s pairs (y ++ z)) :
    ∃ x, s = x ++ z ∧ ListOf (fun _ => Assignment) [] (x ++ z') pairs (y ++ z') :=
  list_exchanges exchange (·.head? ≠ some '.')
    (fun _ _ _ _ noPoint item => assignment_exchanges exchange noPoint item)
    (fun _ _ gap => gap.no_point (by decide)) noPoint list

theorem attributes_exchanges (attrs : Mapping String String) :
    Exchanges z z' (Attributes · attrs ·) := by
  intro s y stands
  generalize same : y ++ z = r at stands
  cases stands with
  | absent => exact ⟨y, same.symm, .absent⟩
  | empty opened closed =>
    subst same
    obtain ⟨t, rfl, closed'⟩ := gap_exchanges exchange (y := ']' :: y) closed
    obtain ⟨x, text, opened'⟩ := gap_exchanges exchange (y := '[' :: t) opened
    exact ⟨x, text, .empty opened' closed'⟩
  | some opened gap list closed =>
    subst same
    obtain ⟨v, rfl, closed'⟩ := gap_exchanges exchange (y := ']' :: y) closed
    obtain ⟨u, rfl, list'⟩ := assignments_exchanges exchange (closed.no_point (by decide)) list
    obtain ⟨t, rfl, gap'⟩ := gap_exchanges exchange gap
    obtain ⟨x, text, opened'⟩ := gap_exchanges exchange (y := '[' :: t) opened
    exact ⟨x, text, .some opened' gap' list' closed'⟩

theorem entityItem_exchanges (before : List String) (entity : Entity String String) :
    Exchanges z z' (EntityItem before · entity ·) := by
  rintro s y ⟨named, stands⟩
  obtain ⟨t, rfl, stands'⟩ := attributes_exchanges exchange _ stands
  obtain ⟨x, text, named'⟩ := name_exchanges exchange _ named
  exact ⟨x, text, .mk named' stands'⟩

/-- A list whose items need nothing of what is left behind them. -/
theorem plainList_exchanges {Item : List String → List Char → α → List Char → Prop}
    (items : ∀ before a, Exchanges z z' (Item before · a ·)) (before : List String) (as : List α) :
    Exchanges z z' (ListOf Item before · as ·) := fun _ _ =>
  list_exchanges exchange (fun _ => True) (fun before a _ _ _ => @items before a _ _)
    (fun _ _ _ => trivial) trivial

theorem entitiesPart_exchanges (before next : List String)
    (entities : List (Entity String String)) :
    Exchanges z z' (EntitiesPart before · entities next ·) := by
  intro s y part
  generalize same : y ++ z = r at part
  cases part with
  | absent => exact ⟨y, same.symm, .absent⟩
  | present list gap layout =>
    obtain ⟨u, rfl, layout'⟩ := layout_exchanges exchange _ (same ▸ layout)
    obtain ⟨t, rfl, gap'⟩ := gap_exchanges exchange (y := ';' :: u) gap
    obtain ⟨x, text, list'⟩ :=
      plainList_exchanges exchange (entityItem_exchanges exchange) _ _ list
    exact ⟨x, text, .present list' gap' layout'⟩

/-! ## Arcs and rows -/

theorem inlineHead_exchanges (kind : InlineKind) (source target : String)
    (attrs : Mapping String String) : Exchanges z z' (InlineHead · kind source target attrs ·) := by
  rintro s y ⟨⟨named, other, gap, keyword⟩, gap', named', stands, opened⟩
  obtain ⟨p, rfl, opened'⟩ := gap_exchanges exchange (y := '\x7b' :: y) opened
  obtain ⟨x, rfl, stands'⟩ := attributes_exchanges exchange _ stands
  obtain ⟨w, rfl, target'⟩ := name_exchanges exchange _ named'
  obtain ⟨v, rfl, after'⟩ := gap_exchanges exchange gap'
  obtain ⟨u, rfl, keyword'⟩ := keyword_exchanges exchange _ keyword
  obtain ⟨t, rfl, before'⟩ := gap_exchanges exchange gap
  obtain ⟨o, text, source'⟩ := name_exchanges exchange _ named
  exact ⟨o, text, ⟨source', other, before', keyword'⟩, after', target', stands', opened'⟩

section

variable {Block : List Char → Rows String String → List Char → Prop}

variable (blocks : ∀ rows, Exchanges z z' (Block · rows ·))

include blocks

theorem arcItem_exchanges (before : List String) (arc : Arc String String) :
    Exchanges z z' (ArcItem Block before · arc ·) := by
  intro s y item
  generalize same : y ++ z = r at item
  cases item with
  | @empty _ _ kind _ stands =>
    obtain ⟨x, rfl, stands'⟩ := attributes_exchanges exchange _ (same ▸ stands)
    refine ⟨kind.token.toList ++ x, by rw [List.append_assoc], ?_⟩
    rw [List.append_assoc]
    exact .empty stands'
  | message source gap operator gap' target stands =>
    subst same
    obtain ⟨x, rfl, stands'⟩ := attributes_exchanges exchange _ stands
    obtain ⟨w, rfl, target'⟩ := end_exchanges exchange _ target
    obtain ⟨v, rfl, after'⟩ := gap_exchanges exchange gap'
    obtain ⟨u, rfl, operator'⟩ := operator_exchanges exchange _ operator
    obtain ⟨t, rfl, before'⟩ := gap_exchanges exchange gap
    obtain ⟨p, text, source'⟩ := end_exchanges exchange _ source
    exact ⟨p, text, .message source' before' operator' after' target' stands'⟩
  | box source other gap keyword gap' target stands =>
    subst same
    obtain ⟨x, rfl, stands'⟩ := attributes_exchanges exchange _ stands
    obtain ⟨w, rfl, target'⟩ := name_exchanges exchange _ target
    obtain ⟨v, rfl, after'⟩ := gap_exchanges exchange gap'
    obtain ⟨u, rfl, keyword'⟩ := keyword_exchanges exchange _ keyword
    obtain ⟨t, rfl, before'⟩ := gap_exchanges exchange gap
    obtain ⟨p, text, source'⟩ := name_exchanges exchange _ source
    exact ⟨p, text, .box source' other before' keyword' after' target' stands'⟩
  | inline named other gap keyword gap' named' stands opened inside closed =>
    subst same
    obtain ⟨b, rfl, closed'⟩ := gap_exchanges exchange (y := '\x7d' :: y) closed
    obtain ⟨u, rfl, inside'⟩ := blocks _ inside
    obtain ⟨x, text, head'⟩ := inlineHead_exchanges exchange _ _ _ _
      ⟨⟨named, other, gap, keyword⟩, gap', named', stands, opened⟩
    exact ⟨x, text, .of_head head' inside' closed'⟩

theorem row_exchanges (before : List String) (row : List (Arc String String)) :
    Exchanges z z' (ListOf (ArcItem Block) before · row ·) :=
  plainList_exchanges exchange (arcItem_exchanges exchange blocks) before row

theorem rowAhead_exchanges (before comments : List String) (row : List (Arc String String)) :
    Exchanges z z' (RowAhead Block before · row comments ·) := by
  intro s y ahead
  generalize same : y ++ z = r at ahead
  have rows := row_exchanges exchange blocks before row
  cases ahead with
  | closed list closed layout =>
    obtain ⟨u, rfl, layout'⟩ := layout_exchanges exchange _ (same ▸ layout)
    obtain ⟨t, rfl, closed'⟩ := gap_exchanges exchange (y := ';' :: u) closed
    obtain ⟨x, text, list'⟩ := rows list
    exact ⟨x, text, .closed list' closed' layout'⟩
  | unclosed list last gap =>
    obtain ⟨t, rfl, gap'⟩ := gap_exchanges exchange (same ▸ gap)
    obtain ⟨x, text, list'⟩ := rows list
    exact ⟨x, text, .unclosed list' last gap'⟩

theorem rowList_exchanges (before : List String) (rows : Rows String String) :
    Exchanges z z' (RowList Block before · rows ·) := by
  intro s y list
  generalize same : y ++ z = r at list
  induction list with
  | nil => exact ⟨y, same.symm, .nil⟩
  | closed row gap layout _ step =>
    obtain ⟨v, rfl, list'⟩ := step same
    obtain ⟨x, text, ahead⟩ := rowAhead_exchanges exchange blocks _ _ _ (.closed row gap layout)
    exact ⟨x, text, ahead.rowList list'⟩
  | unclosed row last gap _ step =>
    obtain ⟨u, rfl, list'⟩ := step same
    obtain ⟨x, text, ahead⟩ := rowAhead_exchanges exchange blocks _ _ _ (.unclosed row last gap)
    exact ⟨x, text, ahead.rowList list'⟩

end

theorem block_exchanges (levels : Nat) (rows : Rows String String) :
    Exchanges z z' (Block levels · rows ·) := by
  induction levels generalizing rows with
  | zero => exact fun s y inside => inside.elim
  | succ levels step =>
    rintro s y ⟨comments, t, layout, list⟩
    obtain ⟨u, rfl, list'⟩ := rowList_exchanges exchange step _ _ list
    obtain ⟨x, text, layout'⟩ := layout_exchanges exchange _ layout
    exact ⟨x, text, comments, _, layout', list'⟩

theorem body_exchanges (levels : Nat) (before : List String)
    (content : Content String String (Options String Bool String)) :
    Exchanges z z' (Body levels before · content ·) := by
  rintro s y ⟨options, entities, rows⟩
  obtain ⟨u, rfl, rows'⟩ := rowList_exchanges exchange (block_exchanges exchange levels) _ _ rows
  obtain ⟨t, rfl, entities'⟩ := entitiesPart_exchanges exchange _ _ _ entities
  obtain ⟨x, text, options'⟩ := optionsPart_exchanges exchange _ _ _ options
  exact ⟨x, text, .mk options' entities' rows'⟩

end

end SeqChart.Grammar
