import SeqChart.Proofs.Data.Except
import SeqChart.Proofs.Reading.Image
import SeqChart.Proofs.Writing.Chart
import SeqChart.Proofs.Writing.Flat
import SeqChart.Proofs.Writing.Render
/-!
Charts written without inline expressions. Main statement, `parse_render_flatten_iff`: a chart that
was read comes back flattened, unless its first statement starts like an option.
-/

namespace SeqChart

open Grammar

namespace Writer

/-- A proper chart comes back flattened, however deep inline expressions may nest. -/
theorem parse_chartText_mscgen {chart : Chart} (proper : chart.Proper) (minify : Bool)
    (closed : ¬ chart.OpensLikeOption .mscgen) (limit : Int) :
    ∃ chart', Chart.parse (String.ofList (chartText ⟨minify, .mscgen⟩ chart)) limit = .ok chart' ∧
      (chart' == chart.flatten) = true := by
  obtain ⟨rows, before, s, layout, list, sameRows⟩ := rows_flattened minify proper.rows ['\x7d']
  obtain ⟨entities, read, keeps⟩ := parse_written proper closed layout list
  refine ⟨_, read, Chart.beq_iff.2 ⟨?_, ?_, sameRows, rfl⟩⟩
  · rw [keptOptions_mscgen]
    exact Options.beq_refl _
  · exact entities_beq (·.without "title") (fun proper keeps => keeps.beq_without proper) keeps
      proper.entities

end Writer

/-- A chart that was read comes back flattened unless it opens like an option, and then it does not
come back at all. Nothing nests in what comes back, so any limit will do. -/
theorem Chart.parse_render_flatten_iff {source : String} {depth limit : Int} {chart : Chart}
    (read : Chart.parse source depth = .ok chart) (fits : (chart.nesting : Int) ≤ limit)
    (minify : Bool) :
    ∃ text, (chart.render ⟨minify, .mscgen⟩ limit).outcome = .ok text ∧ ∀ depth',
      (∃ chart', Chart.parse text depth' = .ok chart' ∧ (chart' == chart.flatten) = true) ↔
        ¬ chart.OpensLikeOption .mscgen := by
  have proper := (Chart.parse_eq_ok.1 read).1.proper.1
  refine ⟨_, Chart.render_eq_ok_iff.2 ⟨⟨proper.filled, fits⟩, rfl⟩, fun depth' => ⟨?_, ?_⟩⟩
  · rintro ⟨chart', read', -⟩ opens
    exact Writer.parse_ne_ok_of_opens ⟨minify, .mscgen⟩ proper opens depth' chart' read'
  · intro closed
    exact Writer.parse_chartText_mscgen proper minify closed depth'

theorem Chart.parse_render_flatten_nested : ∃ chart text,
    Chart.parse "msc\x7ba,b;a->b,a alt b\x7bb->a;\x7d,b->b;\x7d" 1 = .ok chart ∧
      (chart.nesting : Int) ≤ 1 ∧ (chart.render ⟨false, .mscgen⟩ 1).outcome = .ok text ∧
      ∀ depth, ∃ chart', Chart.parse text depth = .ok chart' ∧
        (chart' == chart.flatten) = true := by
  have parsed : (Chart.parse "msc\x7ba,b;a->b,a alt b\x7bb->a;\x7d,b->b;\x7d" 1).toOption.any
      (fun chart => !chart.entities.isEmpty && decide ((chart.nesting : Int) ≤ 1)) = true := by
    decide +kernel
  obtain ⟨chart, read, known⟩ := Except.any_toOption_iff.1 parsed
  obtain ⟨declared, fits⟩ := Bool.and_eq_true_iff.1 known
  have fits := of_decide_eq_true fits
  obtain ⟨text, written, back⟩ := Chart.parse_render_flatten_iff read fits false
  have closed : ¬ chart.OpensLikeOption .mscgen := by
    rintro ⟨-, none, -⟩
    simp [none] at declared
  exact ⟨chart, text, read, fits, written, fun depth => (back depth).2 closed⟩

end SeqChart
