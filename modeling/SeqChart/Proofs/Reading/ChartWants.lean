import SeqChart.Proofs.Reading.RowWants
/-!
What the reader of a chart stops for want of. Main statement, `braced_completable`: a chart that
lacks something before its closing brace can be completed from there on, if no inline expression
before that place is too deep.
-/

namespace SeqChart

open Grammar

namespace Grammar

variable {z : List Char}

/-- Blanks behind options belong to them, or to what stands there instead. -/
theorem OptionsPart.append {before comments : List String} {s t u : List Char}
    {options : Options String Bool String} (part : OptionsPart before s options comments t)
    (layout : Layout t [] u) : ∃ v, Layout s [] v ∧ OptionsPart before v options comments u ∧
      (options = {} → v = u) := by
  cases part with
  | absent => exact ⟨u, layout, .absent, fun _ => rfl⟩
  | present list closed layout' =>
    refine ⟨s, .done, .present list closed ?_, fun unset => ?_⟩
    · simpa using layout'.append layout
    · obtain rfl := (Options.foldl_set_eq unset).2
      cases list

/-- Blanks behind entities belong to them, or to what stands there instead. -/
theorem EntitiesPart.append {before comments : List String} {s t u : List Char}
    {entities : List (Entity String String)} (part : EntitiesPart before s entities comments t)
    (layout : Layout t [] u) : ∃ v, Layout s [] v ∧ EntitiesPart before v entities comments u ∧
      (entities = [] → v = u) := by
  cases part with
  | absent => exact ⟨u, layout, .absent, fun _ => rfl⟩
  | present list closed layout' =>
    refine ⟨s, .done, .present list closed ?_, ?_⟩
    · simpa using layout'.append layout
    · rintro rfl
      cases list

theorem OptionsPart.set_of_list {settings : List (Setting String Bool)} {s t : List Char}
    (list : ListOf (fun _ => OptionItem) [] s settings t) :
    (Options.ofSettings settings : Options String Bool String) ≠ {} := by
  intro unset
  obtain rfl := (Options.foldl_set_eq unset).2
  cases list

/-- Where a new line is put in the place of something behind the tokens of a chart, its brace opens
on no option that it did not open on. -/
theorem Body.assigns_of_break {levels : Nat} {before : List String} {y w t u r : List Char}
    {content : Content String String (Options String Bool String)}
    (body : Body levels before (y ++ z) content t)
    (body' : Body levels before (y ++ '\n' :: w) content u) (closed : Gap u ('\x7d' :: r))
    (unset : content.options = {}) (assigns : Assigns (y ++ '\n' :: w)) : Assigns (y ++ z) := by
  cases y with
  | nil =>
    obtain ⟨_, _, _, word, -⟩ := assigns
    exact absurd word (not_word_cons (by decide))
  | cons c y =>
    exact body.assigns_of_opening body' closed unset unset rfl (fun a first => .inl first) rfl
      assigns

/-- A chart that is read up to its closing brace. -/
def BracedTo (levels : Nat) (c : Chart) (source r : List Char) : Prop :=
  Braced levels source c r ∧ (c.options = {} → ¬ OpensWithAssignment source)

theorem BracedTo.breaks {levels : Nat} {c : Chart} {source t : List Char}
    (braced : BracedTo levels c source t) : Breaks (BracedTo levels c) source t z := by
  rintro y tail rfl
  obtain ⟨⟨layout, keyword, opened, inside, body, closed⟩, other⟩ := braced
  have exchange : Exchange z ('\n' :: tail) := .line z tail
  obtain ⟨w, rfl, closed'⟩ := gap_exchanges exchange (y := '\x7d' :: y) closed
  obtain ⟨v, rfl, body'⟩ := body_exchanges exchange _ _ _ body
  obtain ⟨u, rfl, inside'⟩ := layout_exchanges exchange _ inside
  obtain ⟨t, rfl, opened'⟩ := gap_exchanges exchange (y := '\x7b' :: u) opened
  obtain ⟨s, rfl, keyword'⟩ := keyword_exchanges exchange _ keyword
  obtain ⟨x, rfl, layout'⟩ := layout_exchanges exchange _ layout
  refine ⟨x, rfl, .mk layout' keyword' opened' inside' body' closed', fun unset opens => ?_⟩
  have assigns := (opens_iff layout' keyword' opened' inside' body' closed').1 opens
  exact other unset ((opens_iff layout keyword opened inside body closed).2
    (body.assigns_of_break body' closed' unset assigns))

end Grammar

namespace Reader

variable {α : Type} {s z : List Char} {limit : Int} {before : List String}

/-! ## Entities and rows -/

theorem not_misses_atEntity : ¬ Misses atEntity s z := by
  rintro ⟨wanted, failed⟩
  unfold atEntity at failed
  dsimp only at failed
  split at failed
  · cases failed
  · split at failed
    · cases failed
    · exact not_misses_skipLayout ⟨wanted, Except.map_eq_error_iff.1 failed⟩

theorem not_misses_atOption : ¬ Misses atOption s z := by
  rintro ⟨wanted, failed⟩
  have missed : Misses _ s z := ⟨wanted, Except.map_eq_error_iff.1 failed⟩
  obtain ⟨w, t, -, refused⟩ := misses_next (not_misses_of_total ⟨_, rfl⟩) missed
  split at refused
  · exact not_misses_pure _ refused
  · obtain ⟨_, -, -, refused⟩ := misses_skipLayout_bind refused
    exact not_misses_accept refused

theorem entitiesPart_misses (missed : Misses (entitiesPart before) s z) :
    Misses (entities before) s z := by
  obtain ⟨found, t, read, refused⟩ := misses_next not_misses_atEntity missed
  obtain rfl := atEntity_leaves read
  cases found with
  | false => exact absurd refused (not_misses_pure _)
  | true =>
    rw [if_pos rfl] at refused
    refine (misses_bind_iff.1 refused).resolve_right ?_
    rintro ⟨es, u, -, refused⟩
    obtain ⟨_, _, -, -, refused⟩ := misses_comments_bind refused
    exact not_misses_pure _ refused

theorem optionsPart_misses (missed : Misses (optionsPart before) s z) :
    Misses options s z := by
  obtain ⟨found, t, read, refused⟩ := misses_next not_misses_atOption missed
  obtain ⟨rfl, -⟩ := ahead_eq_ok_iff.1 read
  cases found with
  | false => exact absurd refused (not_misses_pure _)
  | true =>
    rw [if_pos rfl] at refused
    refine (misses_bind_iff.1 refused).resolve_right ?_
    rintro ⟨es, u, -, refused⟩
    obtain ⟨_, _, -, -, refused⟩ := misses_comments_bind refused
    exact not_misses_pure _ refused

/-- Entities and rows up to and with the brace that closes a chart, behind blanks. -/
def StatementsTo (levels : Nat) (First : List Char → Prop) (before : List String)
    (s r : List Char) : Prop :=
  ∃ t es after u rows b, Layout s [] t ∧ First t ∧ EntitiesPart before t es after u ∧
    RowList (Grammar.Block levels) after u rows b ∧ Gap b ('\x7d' :: r)

theorem entitiesAndRows_completable (solid : Solid s)
    (shallow : ∀ {es after x}, EntitiesPart before s es after x → Shallow z limit.toNat x)
    (missed : Misses (entitiesAndRows limit before) s z) :
    Completable (StatementsTo limit.toNat (fun t => Assigns t → Assigns s) before) s z := by
  rcases misses_bind_iff.1 missed with stopped | ⟨⟨es, after⟩, t, read, refused⟩
  · have list := series_completable entity_repairs _ solid trivial (entitiesPart_misses stopped)
    refine (list.andThen (startable_char '\x7d')).imp ?_
    rintro y w r - ⟨u, ⟨t, layout, -, es, v, list, closed⟩, rfl⟩
    exact ⟨t, es, [], _, [], _, layout, fun assigns => absurd assigns
      (not_assigns_of_entities list closed), .present list closed .done, .nil, Gap.refl _⟩
  · obtain ⟨part, solid'⟩ := entitiesPart_sound solid read
    have breaks : Breaks (EntitiesPart before · es after ·) s t z :=
      breaks_of_exchanges (fun tail => entitiesPart_exchanges (.line z tail) _ _ _) part
    have next := rows_completable (blocks_completable limit limit.toNat) solid' (shallow part)
      (misses_of_bind_pure refused)
    refine (next.after breaks).imp ?_
    rintro y w r - ⟨u, part', t', rows, b, layout, first, list, closed⟩
    obtain ⟨v, layout', part', alone⟩ := part'.append layout
    refine ⟨v, es, after, t', rows, b, layout', fun assigns => ?_, part', list, closed⟩
    by_cases none : es = []
    · obtain rfl := alone none
      subst none
      exact part.eq_of_nil ▸ first assigns
    · exact absurd assigns (part'.not_assigns_of_ne_nil none)

/-! ## Charts -/

/-- What is between the braces of a chart, up to and with the closing one, behind blanks. -/
def ContentTo (levels : Nat) (before : List String) (s r : List Char) : Prop :=
  ∃ t content b, Layout s [] t ∧ Grammar.Body levels before t content b ∧ Gap b ('\x7d' :: r) ∧
    (content.options = {} → ¬ Assigns t)

theorem content_completable (solid : Solid s)
    (shallow : ∀ {options between w es after x}, OptionsPart before s options between w →
      (options = {} → ¬ Assigns s) → EntitiesPart between w es after x →
      Shallow z limit.toNat x)
    (missed : Misses (content limit before) s z) :
    Completable (ContentTo limit.toNat before) s z := by
  rcases misses_bind_iff.1 missed with stopped | ⟨⟨options, between⟩, t, read, refused⟩
  · have list := series_completable setting_repairs _ solid trivial
      (misses_of_bind_pure (optionsPart_misses stopped))
    refine (list.andThen (startable_char '\x7d')).imp ?_
    rintro y w r - ⟨u, ⟨t, layout, -, settings, v, list, closed⟩, rfl⟩
    have part : OptionsPart before t _ [] ('\x7d' :: r) := .present list closed .done
    exact ⟨t, _, _, layout, .mk part .absent .nil, Gap.refl _, fun unset =>
      absurd unset (OptionsPart.set_of_list list)⟩
  · obtain ⟨part, solid', other⟩ := optionsPart_sound solid read
    have breaks : Breaks (OptionsPart before · options between ·) s t z :=
      breaks_of_exchanges (fun tail => optionsPart_exchanges (.line z tail) _ _ _) part
    have statements := entitiesAndRows_completable solid' (fun part' => shallow part other part')
      (misses_of_bind_pure refused)
    refine (statements.after breaks).imp ?_
    rintro y w r - ⟨u, part', t', es, after, v, rows, b, layout, first, entities, list, closed⟩
    obtain ⟨x, layout', part', alone⟩ := part'.append layout
    refine ⟨x, ⟨options, es, rows⟩, b, layout', .mk part' entities list, closed, ?_⟩
    rintro rfl assigns
    obtain rfl := alone rfl
    exact other rfl (part.eq_of_unset ▸ first assigns)

/-- A chart from its opening brace on. -/
def OpenedTo (levels : Nat) (s r : List Char) : Prop :=
  ∃ u before v, Gap s ('\x7b' :: u) ∧ Layout u before v ∧ ContentTo levels before v r

theorem contentTo_brace (levels : Nat) (before : List String) (r : List Char) :
    ContentTo levels before ('\x7d' :: r) r := by
  refine ⟨_, ⟨{}, [], []⟩, _, .done, .mk .absent .absent .nil, Gap.refl _, ?_⟩
  rintro - ⟨_, _, _, word, -⟩
  exact not_word_cons rfl word

theorem startable_openedTo (levels : Nat) : Startable (OpenedTo levels) :=
  ⟨['\x7b', '\x7d'], fun r => ⟨_, [], _, Gap.refl _, .done, contentTo_brace levels [] r⟩⟩

theorem startable_chart (levels : Nat) :
    Startable (Relation.Comp (Keyword "msc") (OpenedTo levels)) := by
  obtain ⟨more, took⟩ := startable_openedTo levels
  refine ⟨"msc ".toList ++ more, fun r => ⟨' ' :: (more ++ r), ?_, ?_⟩⟩
  · rw [List.append_assoc]
    exact Writer.keyword_written (by decide) (Writer.endsWord_blank _)
  · obtain ⟨u, before, v, opened, rest⟩ := took r
    exact ⟨u, before, v, (Writer.gap_blank _).trans opened, rest⟩

theorem bracedTo_of_opened {levels : Nat} {source t r : List Char} {head : List String}
    (layout : Layout source head s) (keyword : Keyword "msc" s t) (opened : OpenedTo levels t r) :
    ∃ c, BracedTo levels c source r := by
  obtain ⟨u, before, v, opened, inside, w, content, b, inside', body, closed, other⟩ := opened
  have inside : Layout u before w := by simpa using inside.append inside'
  refine ⟨_, .mk layout keyword opened inside body closed, fun unset opens => ?_⟩
  exact other unset ((opens_iff layout keyword opened inside body closed).1 opens)

theorem content_open_completable {content : Content String String (Options String Bool String)}
    {t : List Char} (body : Grammar.Body limit.toNat before s content t)
    (other : content.options = {} → ¬ Assigns s) (gap : Gap t z) :
    Completable (ContentTo limit.toNat before) s z := by
  have breaks : Breaks (Grammar.Body limit.toNat before · content ·) s t z :=
    breaks_of_exchanges (fun tail => body_exchanges (.line z tail) _ _ _) body
  refine ((completable_of_gap gap (startable_char '\x7d')).after breaks).imp ?_
  rintro y w r rfl ⟨u, body', v, gap, rfl⟩
  exact ⟨_, content, u, .done, body', gap, fun unset assigns =>
    other unset (body.assigns_of_break body' gap unset assigns)⟩

theorem opened_completable {head : List String}
    (shallow : ∀ {u before v options between w es after x}, Gap s ('\x7b' :: u) →
      Layout u before v → OptionsPart before v options between w → (options = {} → ¬ Assigns v) →
      EntitiesPart between w es after x → Shallow z limit.toNat x)
    (missed : Misses (do
      expect "\x7b"
      let before ← comments
      let content ← content limit before
      expect "\x7d"
      return ({ content with comments := head } : Chart)) s z) :
    Completable (OpenedTo limit.toNat) s z := by
  rcases misses_bind_iff.1 missed with stopped | ⟨_, u, read, refused⟩
  · have brace := contentTo_brace limit.toNat []
    have start : Startable fun s r => ∃ u, s = '\x7b' :: u ∧ ContentTo limit.toNat [] u r :=
      ⟨['\x7b', '\x7d'], fun r => ⟨_, rfl, brace r⟩⟩
    refine (completable_of_gap (gap_of_misses_expect stopped) start).imp ?_
    rintro y w r - ⟨_, gap, u, rfl, content⟩
    exact ⟨u, [], u, gap, .done, content⟩
  · have opened : Gap s ('\x7b' :: u) := (expect_eq_ok_iff solid_brace).1 read
    obtain ⟨before, v, inside, solid, refused⟩ := misses_comments_bind refused
    have content : Completable (ContentTo limit.toNat before) v z := by
      rcases misses_bind_iff.1 refused with stopped | ⟨content, w, read', refused⟩
      · exact content_completable solid (shallow opened inside) stopped
      · obtain ⟨body, other⟩ := content_sound solid read'
        exact content_open_completable body other
          (gap_of_misses_expect (misses_of_bind_pure refused))
    refine (content.after (opened.breaks_cons.comp inside.breaks)).imp ?_
    rintro y w r - ⟨v, ⟨u, opened, inside⟩, content⟩
    exact ⟨u, before, v, opened, inside, content⟩

theorem braced_completable {source : List Char}
    (shallow : ∀ r, Overflows limit.toNat source r → ¬ z <:+ r)
    (missed : Misses (braced limit) source z) :
    Completable (fun source r => ∃ c, BracedTo limit.toNat c source r) source z := by
  obtain ⟨head, s, layout, solid, refused⟩ := misses_comments_bind missed
  rcases keyword?_cases (fun _ => "msc") [()] s with absent | ⟨_, read⟩
  · have refused := misses_bind_of_ok absent refused
    rw [if_pos Option.isNone_none] at refused
    obtain rfl := eq_of_misses_fail refused
    refine ((completable_here (startable_chart limit.toNat)).after layout.breaks).imp ?_
    rintro y w r - ⟨s, layout, t, layout', u, keyword, opened⟩
    have layout : Layout (y ++ '\n' :: w) head t := by simpa using layout.append layout'
    exact bracedTo_of_opened layout keyword opened
  · have keyword := (keyword_of_keyword? (by simp) read).2
    have refused := misses_bind_of_ok read refused
    rw [if_neg (by simp)] at refused
    have opened := opened_completable (fun opened inside part other part' r deep =>
      shallow r (.mk layout keyword opened inside part other part' deep)) refused
    refine (opened.after (layout.breaks.comp keyword.breaks)).imp ?_
    rintro y w r - ⟨t, ⟨s, layout, keyword⟩, opened⟩
    exact bracedTo_of_opened layout keyword opened

/-- A chart that is closed can be completed where more than layout stands behind it. -/
theorem chart_completable {source : List Char}
    (shallow : ∀ r, Overflows limit.toNat source r → ¬ z <:+ r)
    (missed : Misses (chart limit) source z) :
    Completable (fun source r => ∃ c t, BracedTo limit.toNat c source t ∧ Gap t r) source z := by
  have here : Startable fun s r : List Char => s = r := ⟨[], fun _ => rfl⟩
  rw [chart_eq] at missed
  rcases misses_bind_iff.1 missed with stopped | ⟨c, t, read, refused⟩
  · refine ((braced_completable shallow stopped).andThen here).imp ?_
    rintro y w r - ⟨t, ⟨c, braced⟩, rfl⟩
    exact ⟨c, t, braced, Gap.refl t⟩
  · have braced : BracedTo limit.toNat c source t := braced_eq_ok_iff.1 read
    rcases misses_bind_iff.1 refused with stopped | ⟨_, u, -, refused⟩
    · obtain ⟨u, gap, -, stopped⟩ := misses_skipLayout_bind stopped
      have stopped := misses_get_bind stopped
      split at stopped
      · exact absurd stopped (not_misses_pure _)
      · obtain rfl := eq_of_misses_fail stopped
        refine ((completable_of_gap gap here).after braced.breaks).imp ?_
        rintro y w r - ⟨t, braced, _, gap, rfl⟩
        exact ⟨c, t, braced, gap⟩
    · exact absurd refused (not_misses_pure _)

end Reader

end SeqChart
