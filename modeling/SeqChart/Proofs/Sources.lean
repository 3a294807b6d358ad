import SeqChart.Proofs.Reading.Image
import SeqChart.Proofs.Writing.Chart
/-!
Which charts some text has. Main statement, `exists_parse_iff`: those that are proper and nest no
deeper than allowed.

The writer cannot be asked for the text, since it leaves out the automatic width and the quotes that
keep the first name from looking like an option. The text that is made here has both.
-/

namespace SeqChart

open Grammar

/-! ## A start that is no word

Rows may start with a bare name. The same rows are read when that name is quoted, and then they do
not start like an option. -/

/-- No word starts here, and no layout. -/
def Grammar.StartsUnlikeWord (s : List Char) : Prop :=
  ∃ c rest, s = c :: rest ∧ isPlain c = true ∧ Text.isWord c = false

namespace Grammar

theorem StartsUnlikeWord.solid {s : List Char} (unlike : StartsUnlikeWord s) : Solid s := by
  obtain ⟨c, rest, rfl, plain, -⟩ := unlike
  exact solid_cons plain

theorem StartsUnlikeWord.not_assigns {s : List Char} (unlike : StartsUnlikeWord s) :
    ¬ Assigns s := by
  obtain ⟨c, rest, rfl, -, other⟩ := unlike
  rintro ⟨_, _, _, word, -⟩
  exact not_word_cons other word

theorem Name.respelled {s r : List Char} {n : String} (named : Name s n r) :
    ∃ s', Name s' n r ∧ StartsUnlikeWord s' := by
  obtain ⟨nonempty, complete⟩ := named.proper
  refine ⟨Writer.quote n.toList ++ r, ?_, '"', _, rfl, by decide, by decide⟩
  have quoted := Writer.quoted_quote (r := r) complete
  simpa using Name.quoted quoted fun empty => nonempty (by simpa using empty)

theorem End.respelled {s r : List Char} {n : String} (ended : End s n r) :
    ∃ s', End s' n r ∧ StartsUnlikeWord s' := by
  cases ended with
  | all => exact ⟨_, .all, '*', r, rfl, by decide, by decide⟩
  | name named =>
    obtain ⟨s', named', unlike⟩ := named.respelled
    exact ⟨s', .name named', unlike⟩

section

variable {Block : List Char → Rows String String → List Char → Prop} {before : List String}
  {s r : List Char}

theorem ArcItem.respelled {arc : Arc String String} (item : ArcItem Block before s arc r) :
    ∃ s', ArcItem Block before s' arc r ∧ StartsUnlikeWord s' := by
  cases item with
  | @empty _ _ kind _ stands =>
    refine ⟨_, .empty stands, ?_⟩
    cases kind <;> exact ⟨_, _, rfl, by decide, by decide⟩
  | message source gap operator gap' target stands =>
    obtain ⟨s', source', unlike⟩ := source.respelled
    exact ⟨s', .message source' gap operator gap' target stands, unlike⟩
  | box source other gap keyword gap' target stands =>
    obtain ⟨s', source', unlike⟩ := source.respelled
    exact ⟨s', .box source' other gap keyword gap' target stands, unlike⟩
  | inline source other gap keyword gap' target stands opened block closed =>
    obtain ⟨s', source', unlike⟩ := source.respelled
    exact ⟨s', .inline source' other gap keyword gap' target stands opened block closed, unlike⟩

theorem row_respelled {row : List (Arc String String)}
    (list : ListOf (ArcItem Block) before s row r) :
    ∃ s', ListOf (ArcItem Block) before s' row r ∧ StartsUnlikeWord s' := by
  cases list with
  | one item =>
    obtain ⟨s', item', unlike⟩ := item.respelled
    exact ⟨s', .one item', unlike⟩
  | more item gap layout list =>
    obtain ⟨s', item', unlike⟩ := item.respelled
    exact ⟨s', .more item' gap layout list, unlike⟩

theorem RowList.respelled {rows : Rows String String} (list : RowList Block before s rows r)
    (closing : StartsUnlikeWord r) :
    ∃ s', RowList Block before s' rows r ∧ StartsUnlikeWord s' := by
  cases list with
  | nil => exact ⟨_, .nil, closing⟩
  | closed row gap layout list =>
    obtain ⟨s', row', unlike⟩ := row_respelled row
    exact ⟨s', .closed row' gap layout list, unlike⟩
  | unclosed row inline gap list =>
    obtain ⟨s', row', unlike⟩ := row_respelled row
    exact ⟨s', .unclosed row' inline gap list, unlike⟩

end

/-- Behind entities, or where there are none, no option starts either. -/
theorem EntitiesPart.not_assigns {before after : List String} {s t : List Char}
    {entities : List (Entity String String)} (part : EntitiesPart before s entities after t)
    (unlike : StartsUnlikeWord t) : Solid s ∧ ¬ Assigns s := by
  cases entities with
  | cons entity rest => exact Writer.not_assigns_of_entitiesPart part (by simp)
  | nil =>
    cases part with
    | absent => exact ⟨unlike.solid, unlike.not_assigns⟩
    | present list _ _ => cases list

end Grammar

/-! ## A text for each chart -/

namespace Writer

theorem setting_spelled {options : Options String Bool String} (proper : options.Proper)
    {x : Setting String Bool} (member : x ∈ options.settings) {r : List Char} (ends : EndsWord r) :
    OptionItem (settingText x ++ r) x r := by
  by_cases auto : x = .text .width "auto"
  · subst auto
    have keyword : Keyword (OptionName.text .width).name
        ("width".toList ++ '=' :: (quote "auto".toList ++ r))
        ('=' :: (quote "auto".toList ++ r)) :=
      ⟨"width".toList, word_append (by decide) (endsWord_cons _ rfl), by decide⟩
    have value : Value (quote "auto".toList ++ r) "auto" r :=
      value_quote (EscapeComplete.of_plain (List.forall_mem_ne'.2 (by decide)))
    exact .mk keyword (Gap.refl _) (Gap.refl _) value (.auto (by decide))
  · exact setting_written (properSetting proper member auto) ends

theorem program_spelled {chart : Chart} (proper : chart.Proper) {levels : Nat}
    (fits : chart.nesting ≤ levels) :
    ∃ source chart', Program levels source chart' ∧
      (chart'.options = {} → ¬ OpensWithAssignment source) ∧ (chart' == chart) = true := by
  let style : Style := ⟨true, .xu⟩
  -- From the end: the rows with their start respelled, the comments before them, the rest.
  obtain ⟨rows, after, s, layout, list, sameRows⟩ :=
    rows_written true 1 chart.rows proper.rows fits ['\x7d']
  obtain ⟨s, list, unlike⟩ := list.respelled ⟨'\x7d', [], rfl, by decide, by decide⟩
  have layout := layout_commentsText style 1 layout.proper (.done (s := s))
  rw [List.append_nil] at layout
  obtain ⟨entities, between, t, layout, entitiesPart, keeps⟩ :=
    entitiesPart_written style proper.entities layout
  obtain ⟨before, v, inside, optionsPart, absent⟩ := settings_written style
    (fun x member r ends => setting_spelled proper.options member ends) layout
  rw [Options.ofSettings_settings _ proper.options.extra] at optionsPart
  obtain ⟨solid, other⟩ := entitiesPart.not_assigns unlike
  refine ⟨_, { options := chart.options, entities, rows, comments := chart.comments },
    .mk (layout_head proper.comments _) (keyword_msc style _) (gap_brace style _) inside
      (.mk optionsPart entitiesPart list) (Gap.refl _) (Gap.refl []), ?_, ?_⟩
  · intro unset opens
    have unset : chart.options = {} := unset
    obtain rfl := absent (by rw [unset]; rfl)
    exact other (Reader.assigns_of_opens opens (layout_head proper.comments _)
      (keyword_msc style _) (gap_brace style _) inside solid)
  · have same := entities_beq id (fun proper keeps => keeps.beq proper) keeps proper.entities
    exact Chart.beq_iff.2 ⟨Options.beq_refl _, by simpa using same, sameRows, rfl⟩

end Writer

/-! ## Which charts some text has -/

/-- The charts that can be read at a limit are those that are proper and nest no deeper. -/
theorem Chart.exists_parse_iff (chart : Chart) (limit : Int) :
    (∃ source chart', Chart.parse source limit = .ok chart' ∧ (chart' == chart) = true) ↔
      chart.Proper ∧ chart.nesting ≤ limit.toNat := by
  constructor
  · rintro ⟨source, chart', read, same⟩
    obtain ⟨proper, fits⟩ := (Chart.parse_eq_ok.1 read).1.proper
    exact ⟨proper.of_beq same, Chart.nesting_of_beq same ▸ fits⟩
  · rintro ⟨proper, fits⟩
    obtain ⟨source, chart', program, closed, same⟩ := Writer.program_spelled proper fits
    refine ⟨String.ofList source, chart', Chart.parse_eq_ok.2 ?_, same⟩
    rw [String.toList_ofList]
    exact ⟨program, closed⟩

end SeqChart
