import SeqChart.Proofs.Reading.Arc
import SeqChart.Proofs.Reading.Image
import SeqChart.Reader.Chart
/-!
Reading whole charts. Main statement, `parse_eq_ok`: a text is read as a chart when the grammar
has it so, but for the texts whose first statement is an arc that starts like an option.
-/

namespace SeqChart

open Grammar

/-! ## What the places of entities and rows start with -/

namespace Grammar

theorem Name.of_word {s w t t' : List Char} {n : String} (named : Name s n t) (word : Word s w t') :
    t = t' := by
  cases named with
  | bare word' _ => exact (word'.unique word).2
  | quoted quoted _ =>
    obtain ⟨inside, rfl, -⟩ := quoted
    exact absurd rfl word.not_quote

variable {Block : List Char → Rows String String → List Char → Prop}

/-- Behind the first end of an arc, layout leads on to an operator or a keyword. -/
theorem ArcItem.behind_name {before : List String} {s r : List Char} {a : Arc String String}
    (item : ArcItem Block before s a r) :
    (∃ token rest, s = token ++ rest ∧
      (token = broadcast.toList ∨ ∃ kind : EmptyKind, token = kind.token.toList)) ∨
    ∃ n t c u, Name s n t ∧ Gap t (c :: u) ∧ isPlain c = true ∧ c ≠ ',' ∧ c ≠ ';' ∧ c ≠ '[' := by
  have behind {n : String} {t v w : List Char} {token : String} (named : Name s n t)
      (gap : Gap t v) (keyword : Keyword token v w) : ∃ n t c u, Name s n t ∧ Gap t (c :: u) ∧
      isPlain c = true ∧ c ≠ ',' ∧ c ≠ ';' ∧ c ≠ '[' := by
    obtain ⟨word, whole, -⟩ := keyword
    obtain ⟨c, rest, rfl, letter⟩ := whole.head
    have other {d : Char} (no : Text.isWord d = false) : c ≠ d := by
      rintro rfl
      exact absurd letter (by simp [no])
    exact ⟨n, t, c, rest, named, gap, isPlain_of_isWord letter, other (by decide),
      other (by decide), other (by decide)⟩
  cases item with
  | @empty _ _ kind _ _ => exact .inl ⟨_, _, rfl, .inr ⟨kind, rfl⟩⟩
  | @message _ t _ _ _ _ _ n _ kind _ ended gap operator =>
    cases ended with
    | all => exact .inl ⟨broadcast.toList, t, rfl, .inl rfl⟩
    | name named =>
      obtain rfl := operator.text
      have first : ∃ c u, kind.token.toList = c :: u ∧ isPlain c = true ∧ c ≠ ',' ∧ c ≠ ';' ∧
          c ≠ '[' := by
        cases kind <;> exact ⟨_, _, rfl, by decide⟩
      obtain ⟨c, u, same, plain⟩ := first
      rw [same] at gap
      exact .inr ⟨_, _, c, _, named, gap, plain⟩
  | box named _ gap keyword => exact .inr (behind named gap keyword)
  | inline named _ gap keyword => exact .inr (behind named gap keyword)

end Grammar

namespace Reader

variable {Block : List Char → Rows String String → List Char → Prop}

theorem atEntity_of_arc {before : List String} {s r : List Char} {a : Arc String String}
    (item : ArcItem Block before s a r) : atEntity s = .ok (false, s) := by
  rcases item.behind_name with
    ⟨token, rest, rfl, star | empty⟩ |
    ⟨n, t, c, u, named, gap, plain, noComma, noSemicolon, noBracket⟩
  · exact atEntity_of_token (.inr (.inl star))
  · exact atEntity_of_token (.inr (.inr empty))
  · rw [atEntity_of_name named gap (solid_cons plain)]
    simp [noComma, noSemicolon, noBracket]

/-- Where rows are read, no entities stand. -/
theorem atEntity_of_rows {before : List String} {s r : List Char} {all : Rows String String}
    (list : RowList Block before s all ('\x7d' :: r)) : atEntity s = .ok (false, s) := by
  cases all with
  | nil =>
    cases list
    exact atEntity_of_token (.inl rfl)
  | cons row more =>
    obtain ⟨a, t, item⟩ := list.starts
    exact atEntity_of_arc item

/-- Behind a word that starts entities or rows, layout leads on to a character that neither starts
layout nor goes on with it. -/
theorem plain_behind_statements {before after : List String} {s t r : List Char}
    {es : List (Entity String String)} {all : Rows String String}
    (part : EntitiesPart before s es after t) (list : RowList Block after t all ('\x7d' :: r)) :
    ∀ w u, Word s w u → ∃ c v, Gap u (c :: v) ∧ isPlain c = true := by
  intro w u word
  cases part with
  | present listed closed _ =>
    obtain ⟨n, t, c, v, named, gap, known⟩ := behind_first_entity listed closed
    obtain rfl := named.of_word word
    exact ⟨c, v, gap, (plain_behind_entity known).1⟩
  | absent =>
    cases all with
    | nil =>
      cases list
      exact absurd word (not_word_cons rfl)
    | cons row more =>
      obtain ⟨a, t, item⟩ := list.starts
      rcases item.behind_name with ⟨token, rest, rfl, known⟩ | ⟨n, t, c, v, named, gap, plain, -⟩
      · rcases known with rfl | ⟨kind, rfl⟩
        · exact absurd word (not_word_cons rfl)
        · cases kind <;> exact absurd word (not_word_cons rfl)
      · obtain rfl := named.of_word word
        exact ⟨c, v, gap, plain⟩

theorem goesOn_of_statements {before after : List String} {s t r : List Char}
    {es : List (Entity String String)} {all : Rows String String}
    (part : EntitiesPart before s es after t) (list : RowList Block after t all ('\x7d' :: r)) :
    ∀ w u, Word s w u → ∃ v, Gap u v ∧ Solid v := by
  intro w u word
  obtain ⟨c, v, gap, plain⟩ := plain_behind_statements part list w u word
  exact ⟨c :: v, gap, solid_cons plain⟩

/-! ## Between the braces -/

variable {limit : Int}

theorem entitiesAndRows_sound {before : List String} {s r : List Char}
    {es : List (Entity String String)} {all : Rows String String} (solid : Solid s)
    (read : entitiesAndRows limit before s = .ok ((es, all), r)) :
    ∃ after t, EntitiesPart before s es after t ∧
      RowList (Grammar.Block limit.toNat) after t all r ∧ Solid r := by
  rw [entitiesAndRows, bind_eq_ok_iff] at read
  obtain ⟨⟨es', after⟩, t, taken, read⟩ := read
  obtain ⟨all', u, taken', read⟩ := bind_eq_ok_iff.1 read
  obtain ⟨same, rfl⟩ := pure_eq_ok_iff.1 read
  obtain ⟨rfl, rfl⟩ := Prod.mk.inj same
  obtain ⟨part, solid'⟩ := entitiesPart_sound solid taken
  obtain ⟨list, solid'', -⟩ := rows_sound (admits_inside limit limit.toNat) solid' taken'
  exact ⟨after, t, part, list, solid''⟩

theorem entitiesAndRows_complete {comments after : List String} {s t u v r : List Char}
    {es : List (Entity String String)} {all : Rows String String} (layout : Layout s comments t)
    (part : EntitiesPart comments t es after u)
    (list : RowList (Grammar.Block limit.toNat) after u all v) (gap : Gap v ('\x7d' :: r)) :
    (Reader.comments >>= entitiesAndRows limit) s = .ok ((es, all), '\x7d' :: r) := by
  have admits := admits_inside limit limit.toNat
  have solid : Solid ('\x7d' :: r) := solid_cons rfl
  cases part with
  | present listed closed layout' =>
    have read := comments_rows_complete limit admits layout' list gap solid rfl
    obtain ⟨texts, w, taken, read⟩ := bind_eq_ok_iff.1 read
    rw [bind_of_ok (comments_eq_ok_iff.2 ⟨layout, listed.solid entity_recognises.solid⟩),
      entitiesAndRows, entitiesPart_of_list listed closed, bind_of_ok taken]
    dsimp only
    rw [bind_of_ok read]
    rfl
  | absent =>
    have read := comments_rows_complete limit admits layout list gap solid rfl
    obtain ⟨texts, w, taken, read⟩ := bind_eq_ok_iff.1 read
    have solid' := (comments_eq_ok_iff.1 taken).2
    have list' := (rows_sound admits solid' read).1
    rw [bind_of_ok taken, entitiesAndRows,
      bind_of_ok (entitiesPart_of_absent (atEntity_of_rows list'))]
    dsimp only
    rw [bind_of_ok read]
    rfl

theorem content_sound {before : List String} {s r : List Char}
    {c : Content String String (Options String Bool String)} (solid : Solid s)
    (read : content limit before s = .ok (c, r)) :
    Grammar.Body limit.toNat before s c r ∧ (c.options = {} → ¬ Assigns s) := by
  rw [content, bind_eq_ok_iff] at read
  obtain ⟨⟨options, between⟩, t, first, read⟩ := read
  obtain ⟨⟨es, all⟩, u, second, read⟩ := bind_eq_ok_iff.1 read
  obtain ⟨rfl, rfl⟩ := pure_eq_ok_iff.1 read
  obtain ⟨part, solid', other⟩ := optionsPart_sound solid first
  obtain ⟨after, v, part', list, -⟩ := entitiesAndRows_sound solid' second
  exact ⟨.mk part part' list, other⟩

theorem content_complete {comments : List String} {s t u r : List Char}
    {c : Content String String (Options String Bool String)} (layout : Layout s comments t)
    (body : Grammar.Body limit.toNat comments t c u) (gap : Gap u ('\x7d' :: r))
    (other : c.options = {} → ∀ texts v, Layout s texts v → ¬ Assigns v) :
    (Reader.comments >>= content limit) s = .ok (c, '\x7d' :: r) := by
  obtain ⟨first, part, list⟩ := body
  cases first with
  | present listed closed layout' =>
    have read := entitiesAndRows_complete layout' part list gap
    obtain ⟨texts, w, taken, read⟩ := bind_eq_ok_iff.1 read
    rw [bind_of_ok (comments_eq_ok_iff.2 ⟨layout, listed.solid setting_recognises.solid⟩), content,
      optionsPart_of_list listed closed, bind_of_ok taken]
    dsimp only
    rw [bind_of_ok read]
    rfl
  | absent =>
    have read := entitiesAndRows_complete layout part list gap
    obtain ⟨texts, w, taken, read⟩ := bind_eq_ok_iff.1 read
    obtain ⟨layout', solid'⟩ := comments_eq_ok_iff.1 taken
    obtain ⟨after, x, part', list', -⟩ := entitiesAndRows_sound solid' read
    have absent := atOption_of_other (other rfl texts w layout') (goesOn_of_statements part' list')
    rw [bind_of_ok taken, content, bind_of_ok (optionsPart_of_absent absent)]
    dsimp only
    rw [bind_of_ok read]
    rfl

/-! ## Whole charts -/

theorem keyword?_msc {s t : List Char} (keyword : Keyword "msc" s t) :
    keyword? (fun _ => "msc") [()] s = .ok (some (), t) :=
  keyword?_of_keyword (fun _ _ _ => rfl) (by simp) keyword

/-- Behind the brace that opens a chart there is one place where no more layout stands. -/
theorem opened_unique {source s t u v s' t' u' v' : List Char}
    {head before head' before' : List String} (layout : Layout source head s)
    (keyword : Keyword "msc" s t) (opened : Gap t ('\x7b' :: u)) (inside : Layout u before v)
    (solid : Solid v) (layout' : Layout source head' s') (keyword' : Keyword "msc" s' t')
    (opened' : Gap t' ('\x7b' :: u')) (inside' : Layout u' before' v') (solid' : Solid v') :
    v = v' := by
  obtain rfl := Gap.unique layout.gap keyword.solid layout'.gap keyword'.solid
  obtain rfl := keyword.unique keyword'
  obtain ⟨-, rfl⟩ := List.cons.inj (Gap.unique opened (solid_brace u) opened' (solid_brace u'))
  exact Gap.unique inside.gap solid inside'.gap solid'

theorem assigns_of_opens {source s t u v : List Char} {head before : List String}
    (opens : OpensWithAssignment source) (layout : Layout source head s)
    (keyword : Keyword "msc" s t) (opened : Gap t ('\x7b' :: u)) (inside : Layout u before v)
    (solid : Solid v) : Assigns v := by
  obtain ⟨head', before', s', t', u', v', layout', keyword', opened', inside', assigns⟩ := opens
  have solid' : Solid v' := by
    obtain ⟨_, _, _, whole, -⟩ := assigns
    exact whole.solid
  obtain rfl := opened_unique layout keyword opened inside solid layout' keyword' opened' inside'
    solid'
  exact assigns

/-- A chart up to and with its closing brace. -/
def braced (limit : Int) : Reader Chart := do
  let head ← comments
  let found ← keyword? (fun _ => "msc") [()]
  if found.isNone then fail (.expected (.token "msc"))
  else
    expect "\x7b"
    let before ← comments
    let content ← content limit before
    expect "\x7d"
    return { content with comments := head }

/-- Layout up to the end of the text. -/
def ended : Reader Unit := do
  skipLayout
  let rest ← get
  if rest.isEmpty then return () else fail (.expected .endOfInput)

/-- Reading a chart comes in two steps, up to its closing brace and from there to the end. -/
theorem chart_eq (limit : Int) : chart limit = do
    let c ← braced limit
    ended
    return c := by
  unfold chart braced ended
  simp only [bind_assoc]
  refine bind_congr fun head => bind_congr fun found => ?_
  split
  · rfl
  · simp only [bind_assoc, pure_bind]
    refine bind_congr fun _ => bind_congr fun before => bind_congr fun content =>
      bind_congr fun _ => bind_congr fun _ => bind_congr fun rest => ?_
    split <;> rfl

theorem ended_eq_ok_iff {s r : List Char} : ended s = .ok ((), r) ↔ r = [] ∧ Gap s [] := by
  constructor
  · intro read
    obtain ⟨_, t, skipped, read⟩ := bind_eq_ok_iff.1 read
    rw [get_bind] at read
    split at read
    · rename_i empty
      obtain ⟨-, rfl⟩ := pure_eq_ok_iff.1 read
      obtain rfl := List.isEmpty_iff.1 empty
      exact ⟨rfl, (skipLayout_eq_ok_iff.1 skipped).1⟩
    · cases read
  · rintro ⟨rfl, gap⟩
    rw [ended, bind_of_ok (skipLayout_of_gap gap solid_nil), get_bind]
    rfl

/-- What a chart that is read up to its closing brace consists of. -/
theorem parts_of_braced {source r : List Char} {c : Chart}
    (read : braced limit source = .ok (c, r)) :
    ∃ before s t u v w inside,
      Layout source c.comments s ∧ Keyword "msc" s t ∧ Gap t ('\x7b' :: u) ∧
      Layout u before v ∧ Solid v ∧ content limit before v = .ok (inside, w) ∧ Gap w ('\x7d' :: r) ∧
      c.toContent = inside := by
  rw [braced, bind_eq_ok_iff] at read
  obtain ⟨head, s, taken, read⟩ := read
  have layout := (comments_eq_ok_iff.1 taken).1
  obtain ⟨found, t, taken', rest⟩ := bind_eq_ok_iff.1 read
  cases found with
  | none => cases rest
  | some found =>
    have keyword := (keyword_of_keyword? (by simp) taken').2
    rw [if_neg (by simp)] at rest
    obtain ⟨_, u, opened, rest⟩ := bind_eq_ok_iff.1 rest
    have opened := (expect_eq_ok_iff solid_brace).1 opened
    obtain ⟨before, v, taken, rest⟩ := bind_eq_ok_iff.1 rest
    obtain ⟨layout', solid⟩ := comments_eq_ok_iff.1 taken
    obtain ⟨inside, w, taken, rest⟩ := bind_eq_ok_iff.1 rest
    obtain ⟨_, x, closed, rest⟩ := bind_eq_ok_iff.1 rest
    have closed := (expect_eq_ok_iff solid_brace').1 closed
    obtain ⟨rfl, rfl⟩ := pure_eq_ok_iff.1 rest
    exact ⟨before, s, t, u, v, w, inside, layout, keyword, opened, layout', solid, taken, closed,
      rfl⟩

theorem braced_eq_ok_iff {source r : List Char} {c : Chart} :
    braced limit source = .ok (c, r) ↔ Braced limit.toNat source c r ∧
      (c.options = {} → ¬ OpensWithAssignment source) := by
  constructor
  · intro read
    obtain ⟨before, s, t, u, v, w, inside, layout, keyword, opened, layout', solid, taken, closed,
      rfl⟩ := parts_of_braced read
    obtain ⟨body, other⟩ := content_sound solid taken
    refine ⟨.mk layout keyword opened layout' body closed, fun unset opens => ?_⟩
    exact other unset (assigns_of_opens opens layout keyword opened layout' solid)
  · rintro ⟨closing, other⟩
    obtain ⟨layout, keyword, opened, layout', body, closed⟩ := closing
    have read := content_complete layout' body closed fun unset texts v lay assigns =>
      other unset ⟨_, texts, _, _, _, v, layout, keyword, opened, lay, assigns⟩
    obtain ⟨texts, w, taken, read⟩ := bind_eq_ok_iff.1 read
    rw [braced, bind_of_ok (comments_eq_ok_iff.2 ⟨layout, keyword.solid⟩),
      bind_of_ok (keyword?_msc keyword), if_neg (by simp),
      bind_of_ok ((expect_eq_ok_iff solid_brace).2 opened), bind_of_ok taken, bind_of_ok read,
      bind_of_ok (expect_closing _)]
    rfl

/-- A whole text is a chart up to its closing brace, and layout. -/
theorem program_iff_braced {levels : Nat} {source : List Char} {c : Chart} :
    Program levels source c ↔ ∃ r, Braced levels source c r ∧ Gap r [] := by
  constructor
  · intro program
    obtain ⟨layout, keyword, opened, layout', body, closed, gap⟩ := program
    exact ⟨_, .mk layout keyword opened layout' body closed, gap⟩
  · intro program
    obtain ⟨r, closing, gap⟩ := program
    obtain ⟨layout, keyword, opened, layout', body, closed⟩ := closing
    exact .mk layout keyword opened layout' body closed gap

theorem chart_eq_ok_iff_braced {source r : List Char} {c : Chart} :
    chart limit source = .ok (c, r) ↔
      r = [] ∧ ∃ t, braced limit source = .ok (c, t) ∧ Gap t [] := by
  rw [chart_eq, bind_eq_ok_iff]
  constructor
  · rintro ⟨c', t, closing, rest⟩
    obtain ⟨_, u, last, rest⟩ := bind_eq_ok_iff.1 rest
    obtain ⟨rfl, rfl⟩ := pure_eq_ok_iff.1 rest
    obtain ⟨rfl, gap⟩ := ended_eq_ok_iff.1 last
    exact ⟨rfl, t, closing, gap⟩
  · rintro ⟨rfl, t, closing, gap⟩
    refine ⟨c, t, closing, ?_⟩
    rw [bind_of_ok (ended_eq_ok_iff.2 ⟨rfl, gap⟩)]
    rfl

theorem chart_eq_ok_iff {source r : List Char} {c : Chart} :
    chart limit source = .ok (c, r) ↔ r = [] ∧ Program limit.toNat source c ∧
      (c.options = {} → ¬ OpensWithAssignment source) := by
  simp only [chart_eq_ok_iff_braced, braced_eq_ok_iff, program_iff_braced]
  constructor
  · rintro ⟨rfl, t, ⟨closing, other⟩, gap⟩
    exact ⟨rfl, ⟨t, closing, gap⟩, other⟩
  · rintro ⟨rfl, ⟨t, closing, gap⟩, other⟩
    exact ⟨rfl, t, ⟨closing, other⟩, gap⟩

end Reader

theorem Chart.parse_eq_ok {source : String} {limit : Int} {c : Chart} :
    Chart.parse source limit = .ok c ↔ Program limit.toNat source.toList c ∧
      (c.options = {} → ¬ OpensWithAssignment source.toList) := by
  rw [Chart.parse]
  constructor
  · intro read
    split at read
    · rename_i c' r taken
      cases read
      exact (Reader.chart_eq_ok_iff.1 taken).2
    · cases read
  · intro program
    rw [Reader.chart_eq_ok_iff.2 ⟨rfl, program⟩]

theorem Chart.proper_of_parse {source : String} {limit : Int} {c : Chart}
    (read : Chart.parse source limit = .ok c) : c.Proper :=
  (Chart.parse_eq_ok.1 read).1.proper.1

theorem Chart.nesting_le_of_parse {source : String} {limit : Int} {c : Chart}
    (read : Chart.parse source limit = .ok c) : c.nesting ≤ limit.toNat :=
  (Chart.parse_eq_ok.1 read).1.proper.2

end SeqChart
