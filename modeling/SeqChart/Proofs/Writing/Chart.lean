import SeqChart.Proofs.Reading.Openings
import SeqChart.Proofs.Writing.Rows
/-!
What is written for a chart, and when it cannot be read. Main statements: `program_written`, a
written chart is a text of the grammar, and `parse_ne_ok_of_opens`, it is refused all the same when
its first statement is a message that starts like an option (`Chart.OpensLikeOption`).
-/

namespace SeqChart

open Grammar

/-- Nothing is written before the first arc, and the arc is a message from a bare name with an
operator that starts with an equals sign. -/
def Chart.OpensLikeOption (chart : Chart) (dialect : Dialect) : Prop :=
  (∀ x ∈ chart.options.settings, Writer.isWritten dialect x = false) ∧ chart.entities = [] ∧
    ∃ kind source target attrs comments row rows,
      chart.rows = (.message kind source target attrs comments :: row) :: rows ∧
        Writer.isBareName source = true ∧ kind.token.toList.head? = some '='

namespace Writer

variable {style : Style} {chart : Chart}

/-! ## The text of a chart is a program -/

/-- What is written between the brace of a chart and the closing one. -/
def bodyText (style : Style) (chart : Chart) : List Char :=
  lineEnd style ++ (optionsText style chart.options ++ (entitiesText style chart.entities ++
    (rowsText style 1 chart.rows ++ ['\x7d'])))

theorem chartText_eq (style : Style) (chart : Chart) :
    chartText style chart = chart.comments.flatMap (·.toList ++ ['\n']) ++
      ("msc".toList ++ (space style ++ '\x7b' :: bodyText style chart)) := by
  simp [chartText, bodyText, entitiesText]

theorem layout_head (proper : ProperComments chart.comments) (s : List Char) :
    Layout (chart.comments.flatMap (·.toList ++ ['\n']) ++ s) chart.comments s := by
  generalize chart.comments = comments at proper
  induction comments with
  | nil => exact .done
  | cons comment rest step =>
    obtain ⟨first, properRest⟩ := List.forall_mem_cons.1 proper
    simpa using layout_comment first (step properRest)

theorem keyword_msc (style : Style) (s : List Char) :
    Keyword "msc" ("msc".toList ++ (space style ++ '\x7b' :: s)) (space style ++ '\x7b' :: s) :=
  keyword_written (by decide) (endsWord_brace style s)

theorem gap_brace (style : Style) (s : List Char) :
    Gap (space style ++ '\x7b' :: s) ('\x7b' :: s) :=
  (Layout.of_blanks (blank_space style) .done).gap

theorem program_written (proper : chart.Proper) {levels : Nat} {rows : Rows String String}
    {after : List String} {s t : List Char}
    (layout : Layout (rowsText style 1 chart.rows ++ ['\x7d']) after s)
    (list : RowList (Block levels) after s rows t) (closed : Gap t ['\x7d']) :
    ∃ entities, Program levels (chartText style chart)
      { options := keptOptions style.dialect chart.options, entities, rows,
        comments := chart.comments } ∧
      List.Forall₂ (KeepsEntity style.dialect) chart.entities entities := by
  obtain ⟨entities, between, u, layout', part, keeps⟩ :=
    entitiesPart_written style proper.entities layout
  obtain ⟨before, v, layout'', part'⟩ := optionsPart_written style proper.options layout'
  rw [chartText_eq]
  exact ⟨entities, .mk (layout_head proper.comments _) (keyword_msc style _) (gap_brace style _)
    (Layout.of_blanks (blank_lineEnd style) layout'') (.mk part' part list) closed (Gap.refl []),
    keeps⟩

/-! ## The first statement -/

theorem keptOptions_eq_empty_iff {dialect : Dialect} {options : Options String Bool String} :
    keptOptions dialect options = {} ↔ ∀ x ∈ options.settings, isWritten dialect x = false := by
  constructor
  · intro unset
    have none := (Options.foldl_set_eq unset).2
    simpa using none
  · intro unwritten
    have none : options.settings.filter (isWritten dialect) = [] := by simpa using unwritten
    rw [keptOptions, none]
    rfl

theorem head_nameText {name : String} (quoted : isBareName name = false) (s : List Char) :
    (nameText name ++ s).head? = some '"' := by
  rw [nameText, quoted]
  rfl

/-- A name reads as the start of an assignment only when it is bare. -/
theorem assigns_name {name : String} {c : Char} {s : List Char} (plain : isPlain c = true) :
    Assigns (nameText name ++ ' ' :: c :: s) ↔ isBareName name = true ∧ c = '=' := by
  constructor
  · rintro ⟨w, t, u, word, equals⟩
    cases bare : isBareName name with
    | false => exact absurd (head_nameText bare _) word.not_quote
    | true =>
      rw [nameText, if_pos bare] at word
      obtain ⟨-, rfl⟩ := word.unique (word_of_bareName bare (endsWord_blank (c :: s)))
      have same := Reader.Gap.unique equals (solid_cons rfl) (gap_blank (c :: s))
        (solid_cons plain)
      exact ⟨rfl, (List.cons.inj same).1.symm⟩
  · rintro ⟨bare, rfl⟩
    rw [nameText, if_pos bare]
    exact ⟨_, _, s, word_of_bareName bare (endsWord_blank _), gap_blank _⟩

theorem assigns_end {name : String} {c : Char} {s : List Char} (plain : isPlain c = true) :
    Assigns (endText name ++ ' ' :: c :: s) ↔ isBareName name = true ∧ c = '=' := by
  rw [endText]
  split
  · rename_i star
    subst star
    constructor
    · rintro ⟨w, t, u, word, -⟩
      exact absurd word (not_word_cons rfl)
    · rintro ⟨bare, -⟩
      exact absurd bare (by decide)
  · exact assigns_name plain

theorem blockToken_head (kind : BoxKind ⊕ InlineKind) : ∃ c s,
    (Reader.blockToken kind).toList = c :: s ∧ isPlain c = true ∧ c ≠ '=' := by
  rcases kind with kind | kind <;> cases kind <;> exact ⟨_, _, rfl, by decide⟩

theorem arcToken_head (kind : ArcKind) : ∃ c s,
    kind.token.toList = c :: s ∧ isPlain c = true := by
  cases kind <;> exact ⟨_, _, rfl, by decide⟩

/-- Of the arcs, the messages described in `Chart.OpensLikeOption` start like an option. -/
theorem assigns_arcText {level : Nat} {arc : Arc String String} {s : List Char} :
    Assigns (arcText style level arc ++ s) ↔ ∃ kind source target attrs comments,
      arc = .message kind source target attrs comments ∧ isBareName source = true ∧
        kind.token.toList.head? = some '=' := by
  cases arc with
  | message kind source target attrs comments =>
    obtain ⟨c, rest, token, plain⟩ := arcToken_head kind
    rw [arcText, List.append_assoc, headText_append, token, List.cons_append, assigns_end plain]
    constructor
    · rintro ⟨bare, rfl⟩
      exact ⟨kind, source, target, attrs, comments, rfl, bare, by rw [token]; rfl⟩
    · rintro ⟨_, _, _, _, _, same, bare, first⟩
      cases same
      rw [token] at first
      exact ⟨bare, Option.some.inj first⟩
  | box kind source target attrs comments =>
    obtain ⟨c, rest, token, plain, other⟩ := blockToken_head (.inl kind)
    have token : kind.token.toList = c :: rest := token
    rw [arcText, List.append_assoc, headText_append, token, List.cons_append, assigns_name plain]
    exact ⟨fun found => absurd found.2 other, by rintro ⟨_, _, _, _, _, same, -⟩; cases same⟩
  | empty kind attrs comments =>
    constructor
    · rintro ⟨w, t, u, word, -⟩
      rw [arcText] at word
      cases kind <;> exact absurd word (not_word_cons rfl)
    · rintro ⟨_, _, _, _, _, same, -⟩
      cases same
  | inline kind source target rows attrs comments =>
    have written :
        ∃ c rest, (style.dialect.blockForm.operator?.getD kind.token).toList = c :: rest ∧
        isPlain c = true ∧ c ≠ '=' := by
      cases style.dialect with
      | xu => exact blockToken_head (.inr kind)
      | mscgen =>
        have first : ArcKind.line.token.toList = ['-', '-'] := by decide
        exact ⟨_, _, first, by decide⟩
    obtain ⟨c, rest, token, plain, other⟩ := written
    simp only [arcText, List.append_assoc, headText_append, token, List.cons_append]
    rw [assigns_name plain]
    exact ⟨fun found => absurd found.2 other, by rintro ⟨_, _, _, _, _, same, -⟩; cases same⟩

theorem not_assigns_of_entitiesPart {before after : List String} {s t : List Char}
    {entities : List (Entity String String)} (part : EntitiesPart before s entities after t)
    (some_entity : entities ≠ []) : Solid s ∧ ¬ Assigns s := by
  cases part with
  | absent => exact absurd rfl some_entity
  | present list closed _ =>
    exact ⟨list.solid Reader.entity_recognises.solid, not_assigns_of_entities list closed⟩

theorem solid_arcText {level : Nat} {arc : Arc String String} (proper : arc.Proper)
    (s : List Char) : Solid (arcText style level arc ++ s) := by
  cases arc with
  | message kind source target attrs comments =>
    rw [arcText, List.append_assoc, headText_append]
    exact (end_endText proper.1 (endsWord_blank _)).solid
  | box kind source target attrs comments =>
    rw [arcText, List.append_assoc, headText_append]
    exact (name_nameText proper.2.1 (endsWord_blank _)).solid
  | empty kind attrs comments =>
    rw [arcText]
    cases kind <;> exact solid_cons rfl
  | inline kind source target rows attrs comments =>
    simp only [arcText, List.append_assoc, headText_append]
    exact (name_nameText proper.2.1 (endsWord_blank _)).solid

/-- No value follows the equals sign that an operator starts with. -/
theorem not_option_arcText {level : Nat} {arc : Arc String String} {s r : List Char}
    {x : Setting String Bool} : ¬ OptionItem (arcText style level arc ++ s) x r := by
  rintro ⟨⟨w, word, -⟩, equals, gap, value, -⟩
  obtain ⟨kind, source, target, attrs, comments, rfl, bare, first⟩ :=
    assigns_arcText.1 ⟨_, _, _, word, equals⟩
  have noStar : source ≠ broadcast := by
    rintro rfl
    exact absurd bare (by decide)
  obtain ⟨c, rest, token, second⟩ := ArcKind.equals_token first
  rw [arcText, List.append_assoc, headText_append, endText, if_neg noStar, nameText, if_pos bare,
    token] at word
  obtain ⟨-, rfl⟩ := word.unique (word_of_bareName bare (endsWord_blank _))
  have same := Reader.Gap.unique equals (solid_cons rfl) (gap_blank _)
    (solid_cons rfl)
  obtain rfl := (List.cons.inj same).2
  -- The second character of the operator starts no value.
  have other : isPlain c = true ∧ c ≠ '"' ∧ c ≠ '.' ∧ Text.isWord c = false := by
    rcases second with rfl | rfl <;> decide
  obtain ⟨plain, noQuote, noPoint, noWord⟩ := other
  obtain rfl := Reader.Gap.unique gap value.solid (Gap.refl _) (solid_cons plain)
  obtain ⟨d, _, same, quote | point | letter⟩ := value.head
  all_goals obtain ⟨rfl, -⟩ := List.cons.inj same
  · exact noQuote quote
  · exact noPoint point
  · exact absurd letter (by simp [noWord])

/-- Behind this layout stands the first statement of the chart, or its closing brace: no option, and
what starts like one only where the chart does. -/
def LeadsToFirst (style : Style) (chart : Chart) (s : List Char) : Prop :=
  ∃ before v, Layout s before v ∧ Solid v ∧
    (Assigns v ↔ chart.OpensLikeOption style.dialect) ∧ ∀ x r, ¬ OptionItem v x r

/-- Behind the name of the first entity stands no equals sign. -/
theorem leadsToFirst_of_entities (proper : chart.Proper) (some_entity : chart.entities ≠ [])
    (s : List Char) :
    LeadsToFirst style chart (lineEnd style ++ (entitiesText style chart.entities ++ s)) := by
  obtain ⟨items, before, v, layout, part, keeps⟩ :=
    entitiesPart_written style proper.entities (.done (s := s))
  have some_item : items ≠ [] := by
    rintro rfl
    exact some_entity (List.forall₂_nil_right_iff.1 keeps)
  obtain ⟨solid, assignsNot⟩ := not_assigns_of_entitiesPart part some_item
  refine ⟨before, v, Layout.of_blanks (blank_lineEnd style) layout, solid,
    iff_of_false assignsNot ?_, fun x r item => assignsNot (Reader.assigns_of_option item)⟩
  rintro ⟨-, none, -⟩
  exact some_entity none

theorem leadsToFirst_of_closing (none : chart.rows = []) :
    LeadsToFirst style chart (lineEnd style ++ ['\x7d']) := by
  have assignsNot : ¬ Assigns ['\x7d'] := by
    rintro ⟨_, _, _, word, -⟩
    exact absurd word (not_word_cons rfl)
  refine ⟨[], ['\x7d'], Layout.of_blanks (blank_lineEnd style) .done, solid_cons rfl,
    iff_of_false assignsNot ?_, fun x r item => assignsNot (Reader.assigns_of_option item)⟩
  rintro ⟨-, -, _, _, _, _, _, _, _, stands, -⟩
  cases none.symm.trans stands

theorem leadsToFirst_of_arc (proper : chart.Proper)
    (unwritten : ∀ x ∈ chart.options.settings, isWritten style.dialect x = false)
    (none : chart.entities = []) {arc : Arc String String} {row : List (Arc String String)}
    {rest : Rows String String} (rows : chart.rows = (arc :: row) :: rest) (s : List Char) :
    LeadsToFirst style chart (lineEnd style ++ (rowsText style 1 chart.rows ++ s)) := by
  obtain ⟨-, ⟨properArc, -⟩, -⟩ := rows ▸ proper.rows
  simp only [rows, rowsText, rowText, List.append_assoc, List.cons_append]
  refine ⟨_, _, Layout.of_blanks (blank_lineEnd style)
    (layout_before style 1 properArc.comments _), solid_arcText properArc _, ?_,
    fun x r => not_option_arcText⟩
  rw [assigns_arcText, Chart.OpensLikeOption, none, rows]
  constructor
  · rintro ⟨kind, source, target, attrs, comments, rfl, bare, first⟩
    exact ⟨unwritten, rfl, kind, source, target, attrs, comments, row, rest, rfl, bare, first⟩
  · rintro ⟨-, -, kind, source, target, attrs, comments, _, _, same, bare, first⟩
    cases same
    exact ⟨kind, source, target, attrs, comments, rfl, bare, first⟩

/-- The place of the first statement of a chart without options. -/
theorem opening (proper : chart.Proper) (unset : keptOptions style.dialect chart.options = {}) :
    LeadsToFirst style chart (bodyText style chart) := by
  rw [bodyText, optionsText_of_unset unset, List.nil_append]
  by_cases none : chart.entities = []
  · have noEntities : entitiesText style ([] : List (Entity String String)) = [] := rfl
    rw [none, noEntities, List.nil_append]
    match rows : chart.rows with
    | [] => exact leadsToFirst_of_closing rows
    | [] :: _ => exact absurd rfl (rows ▸ proper.rows).1
    | (arc :: row) :: rest =>
      rw [← rows]
      exact leadsToFirst_of_arc proper (keptOptions_eq_empty_iff.1 unset) none rows _
  · exact leadsToFirst_of_entities proper none _

theorem opens_iff (proper : chart.Proper) (unset : keptOptions style.dialect chart.options = {}) :
    OpensWithAssignment (chartText style chart) ↔ chart.OpensLikeOption style.dialect := by
  obtain ⟨before, v, layout, solid, starts, -⟩ := opening proper unset
  rw [← starts, chartText_eq]
  constructor
  · intro opens
    exact Reader.assigns_of_opens opens (layout_head proper.comments _) (keyword_msc style _)
      (gap_brace style _) layout solid
  · intro assigns
    exact ⟨_, _, _, _, _, v, layout_head proper.comments _, keyword_msc style _, gap_brace style _,
      layout, assigns⟩

/-- What is read of a written chart, when some rows are what its text has for rows. -/
theorem parse_written (proper : chart.Proper) (closed : ¬ chart.OpensLikeOption style.dialect)
    {limit : Int} {rows : Rows String String} {after : List String} {s : List Char}
    (layout : Layout (rowsText style 1 chart.rows ++ ['\x7d']) after s)
    (list : RowList (Block limit.toNat) after s rows ['\x7d']) :
    ∃ entities, Chart.parse (String.ofList (chartText style chart)) limit = .ok
        { options := keptOptions style.dialect chart.options, entities, rows,
          comments := chart.comments } ∧
      List.Forall₂ (KeepsEntity style.dialect) chart.entities entities := by
  obtain ⟨entities, program, keeps⟩ := program_written proper layout list (Gap.refl _)
  refine ⟨entities, Chart.parse_eq_ok.2 ⟨by rwa [String.toList_ofList], fun unset => ?_⟩, keeps⟩
  rw [String.toList_ofList, opens_iff proper unset]
  exact closed

/-- A chart that opens like an option is not read back at all. -/
theorem parse_ne_ok_of_opens (style : Style) (proper : chart.Proper)
    (opens : chart.OpensLikeOption style.dialect) (limit : Int) (read : Chart) :
    Chart.parse (String.ofList (chartText style chart)) limit ≠ .ok read := by
  intro parsed
  obtain ⟨program, other⟩ := Chart.parse_eq_ok.1 parsed
  rw [String.toList_ofList] at program other
  have unset := keptOptions_eq_empty_iff.2 opens.1
  have found : read.options ≠ {} := fun none => other none ((opens_iff proper unset).2 opens)
  obtain ⟨before, v, layout, solid, -, noOption⟩ := opening proper unset
  rw [chartText_eq] at program
  obtain ⟨layoutHead, keyword, opened, layout', ⟨part, -, -⟩, -, -⟩ := program
  cases part with
  | absent => exact found rfl
  | present list _ _ =>
    obtain rfl := Reader.opened_unique layoutHead keyword opened layout'
      (list.solid Reader.setting_recognises.solid) (layout_head proper.comments _)
      (keyword_msc style _) (gap_brace style _) layout solid
    obtain ⟨x, w, item⟩ := list.first
    exact noOption x w item

end Writer

end SeqChart
