import SeqChart.Proofs.Data.Except
import SeqChart.Proofs.Reading.Image
import SeqChart.Proofs.Writing.Chart
import SeqChart.Proofs.Writing.Render
/-!
Round trips through a text that keeps inline expressions. Main statements, `render_parse_iff`, which
charts come back as they were, and `parse_render_parse_iff`, when a chart that was read comes back:
always, unless its first statement starts like an option.

Both halves meet at the grammar: what is written is a text of it, and what is read is one.
-/

namespace SeqChart

open Grammar

/-- An automatic width is what an unset width means, and is not written. -/
def Chart.withoutAutoWidth (chart : Chart) : Chart :=
  { chart with options := { chart.options with width := chart.options.width.filter (· != "auto") } }

theorem Chart.withoutAutoWidth_eq_self {chart : Chart}
    (other : chart.options.width ≠ some "auto") : chart.withoutAutoWidth = chart := by
  have kept : chart.options.width.filter (· != "auto") = chart.options.width := by
    cases width : chart.options.width with
    | none => rfl
    | some value =>
      have other : value ≠ "auto" := fun auto => other (auto ▸ width)
      simp [other]
  rw [Chart.withoutAutoWidth, kept]

namespace Writer

/-- A proper chart comes back as it was written, if it comes back at all. -/
theorem parse_chartText {chart : Chart} (proper : chart.Proper) {limit : Int}
    (fits : (chart.nesting : Int) ≤ limit) (minify : Bool) (closed : ¬ chart.OpensLikeOption .xu) :
    ∃ chart', Chart.parse (String.ofList (chartText ⟨minify, .xu⟩ chart)) limit = .ok chart' ∧
      (chart' == chart.withoutAutoWidth) = true := by
  have levels : Arc.nestingOfRows chart.rows ≤ limit.toNat := by
    unfold Content.nesting at fits
    omega
  obtain ⟨rows, before, s, layout, list, sameRows⟩ :=
    rows_written minify 1 chart.rows proper.rows levels ['\x7d']
  obtain ⟨entities, read, keeps⟩ := parse_written proper closed layout list
  refine ⟨_, read, Chart.beq_iff.2 ⟨?_, ?_, sameRows, rfl⟩⟩
  · rw [keptOptions_xu proper.options.extra]
    exact Options.beq_refl _
  · have same := entities_beq id (fun proper keeps => keeps.beq proper) keeps proper.entities
    simpa [Chart.withoutAutoWidth] using same

/-- What a chart is like that came back as it was. -/
theorem proper_of_back {chart chart' : Chart} {minify : Bool} {limit : Int} {text : String}
    (written : (chart.render ⟨minify, .xu⟩ limit).outcome = .ok text)
    (read : Chart.parse text limit = .ok chart') (same : (chart' == chart) = true) :
    chart.Proper ∧ chart.options.width ≠ some "auto" ∧ (chart.nesting : Int) ≤ limit ∧
      ¬ chart.OpensLikeOption .xu := by
  obtain ⟨⟨-, fits⟩, rfl⟩ := Chart.render_eq_ok_iff.1 written
  -- What was read is proper, and so is what is equal to it.
  have proper' := (Chart.parse_eq_ok.1 read).1.proper.1
  have proper := proper'.of_beq same
  have closed : ¬ chart.OpensLikeOption .xu := fun opens =>
    parse_ne_ok_of_opens ⟨minify, .xu⟩ proper opens limit chart' read
  refine ⟨proper, fun auto => ?_, fits, closed⟩
  -- An automatic width is not written, so it cannot have come back.
  obtain ⟨chart'', read', back⟩ := parse_chartText proper fits minify closed
  cases read.symm.trans read'
  have options := Options.eq_of_beq proper'.options.extra (Chart.beq_iff.1 same).1
  have options' := Options.eq_of_beq proper'.options.extra (Chart.beq_iff.1 back).1
  have unset : chart.options.width = chart.options.width.filter (· != "auto") :=
    congrArg Options.width (options.symm.trans options')
  rw [auto] at unset
  cases unset

end Writer

/-! ## Which charts come back -/

/-- Of all charts, those come back from their text as they were that are proper, leave their width
to the text, nest no deeper than allowed and do not open like an option. -/
theorem Chart.render_parse_iff (chart : Chart) (minify : Bool) (limit : Int) :
    (∃ text chart', (chart.render ⟨minify, .xu⟩ limit).outcome = .ok text ∧
      Chart.parse text limit = .ok chart' ∧ (chart' == chart) = true) ↔
    chart.Proper ∧ chart.options.width ≠ some "auto" ∧ (chart.nesting : Int) ≤ limit ∧
      ¬ chart.OpensLikeOption .xu := by
  constructor
  · rintro ⟨text, chart', written, read, same⟩
    exact Writer.proper_of_back written read same
  · rintro ⟨proper, other, fits, closed⟩
    obtain ⟨chart', read, same⟩ := Writer.parse_chartText proper fits minify closed
    rw [Chart.withoutAutoWidth_eq_self other] at same
    exact ⟨_, chart', Chart.render_eq_ok_iff.2 ⟨⟨proper.filled, fits⟩, rfl⟩, read, same⟩

/-- A chart that was read can be written, and comes back unless it opens like an option. -/
theorem Chart.parse_render_parse_iff {source : String} {limit : Int} {chart : Chart}
    (read : Chart.parse source limit = .ok chart) (inside : 0 ≤ limit) (minify : Bool) :
    ∃ text, (chart.render ⟨minify, .xu⟩ limit).outcome = .ok text ∧
      ((∃ chart', Chart.parse text limit = .ok chart' ∧ (chart' == chart.withoutAutoWidth) = true) ↔
        ¬ chart.OpensLikeOption .xu) := by
  obtain ⟨proper, levels⟩ := (Chart.parse_eq_ok.1 read).1.proper
  have fits : (chart.nesting : Int) ≤ limit := by
    unfold Content.nesting at levels ⊢
    omega
  refine ⟨_, Chart.render_eq_ok_iff.2 ⟨⟨proper.filled, fits⟩, rfl⟩, ?_, ?_⟩
  · rintro ⟨chart', read', -⟩ opens
    exact Writer.parse_ne_ok_of_opens ⟨minify, .xu⟩ proper opens limit chart' read'
  · exact Writer.parse_chartText proper fits minify

theorem Chart.parse_render_parse_declared : ∃ chart text chart',
    Chart.parse "msc\x7bwidth=auto;a,b;a=>b;\x7d" 0 = .ok chart ∧
      (chart.render ⟨true, .xu⟩ 0).outcome = .ok text ∧
      Chart.parse text 0 = .ok chart' ∧ (chart' == chart.withoutAutoWidth) = true := by
  have parsed : (Chart.parse "msc\x7bwidth=auto;a,b;a=>b;\x7d" 0).toOption.any
      (fun chart => !chart.entities.isEmpty) = true := by decide +kernel
  obtain ⟨chart, read, declared⟩ := Except.any_toOption_iff.1 parsed
  obtain ⟨text, written, back⟩ := Chart.parse_render_parse_iff read (Int.le_refl 0) true
  have closed : ¬ chart.OpensLikeOption .xu := by
    rintro ⟨-, none, -⟩
    simp [none] at declared
  obtain ⟨chart', read', same⟩ := back.2 closed
  exact ⟨chart, text, chart', read, written, read', same⟩

/-- The quotes around the first name are not kept, and what is left starts like an option. -/
theorem Chart.quoted_first_name_lost : ∃ chart text,
    Chart.parse "msc\x7b\"a\"=>b;\x7d" 0 = .ok chart ∧
      (chart.render ⟨false, .xu⟩ 0).outcome = .ok text ∧
      ∀ chart', Chart.parse text 0 ≠ .ok chart' := by
  have computed : (Chart.parse "msc\x7b\"a\"=>b;\x7d" 0).toOption.any (fun chart =>
      (chart.render ⟨false, .xu⟩ 0).outcome.toOption.any fun text =>
        (Chart.parse text 0).toOption.isNone) = true := by decide +kernel
  obtain ⟨chart, read, rendered⟩ := Except.any_toOption_iff.1 computed
  obtain ⟨text, written, refused⟩ := Except.any_toOption_iff.1 rendered
  refine ⟨chart, text, read, written, fun chart' read' => ?_⟩
  rw [read'] at refused
  cases refused

end SeqChart
