import SeqChart.Proofs.Data.Except
import SeqChart.Proofs.Grammar.Levels
import SeqChart.Proofs.Reading.Depth
import SeqChart.Proofs.Writing.Translate
/-!
How deep inline expressions may nest. Main statement, `limits_agree`: the reader and the check draw
the same line, how deep the chart nests, and their limits have no other effect.
-/

namespace SeqChart

/-- The report of a block too deep for the limit, wherever it stands. -/
structure SyntaxError.TooDeep (limit : Int) (e : SyntaxError) : Prop where
  text : e.text = s!"inline expressions nested deeper than {limit} levels"
  expected : e.expected = none

theorem Fault.report_tooDeep (limit : Int) (place source : List Char) :
    (Fault.report source ⟨.tooDeep limit, place⟩).TooDeep limit := ⟨rfl, rfl⟩

namespace Chart

variable {source : String} {limit : Int} {chart : Chart}

/-- A chart that is read under one limit is read under every other, or is too deep for it. -/
theorem parse_eq_or_tooDeep (read : Chart.parse source limit = .ok chart) (other : Int) :
    Chart.parse source other = .ok chart ∨
      ∃ e, Chart.parse source other = .error e ∧ e.TooDeep other := by
  unfold Chart.parse at read ⊢
  split at read
  · rename_i found rest taken
    cases read
    rcases Reader.chart_follows other limit _ _ _ taken with same | ⟨place, stops⟩
    · rw [same]
      exact .inl rfl
    · rw [stops]
      exact .inr ⟨_, rfl, Fault.report_tooDeep other place _⟩
  · cases read

/-- Which of the two it is depends on the nesting alone. -/
theorem parse_of_nesting (read : Chart.parse source limit = .ok chart) (other : Int) :
    ((chart.nesting : Int) ≤ max other 0 → Chart.parse source other = .ok chart) ∧
    (max other 0 < chart.nesting → ∃ e, Chart.parse source other = .error e ∧ e.TooDeep other) := by
  constructor
  · intro fits
    obtain ⟨program, opens⟩ := Chart.parse_eq_ok.1 read
    have levels : chart.nesting ≤ other.toNat := by omega
    exact Chart.parse_eq_ok.2 ⟨program.within levels, opens⟩
  · intro deep
    rcases parse_eq_or_tooDeep read other with same | refused
    · have levels := nesting_le_of_parse same
      omega
    · exact refused

/-- The check has nothing against a chart that was read, its depth apart. -/
theorem exists_check_iff_of_parse (read : Chart.parse source limit = .ok chart) (other : Int) :
    (∃ checked, chart.toTree.check other = .ok checked) ↔ (chart.nesting : Int) ≤ other := by
  have filled := (proper_of_parse read).filled
  simp [Chart.check_toTree_eq_ok_iff, filled]

/-- Let a chart be read under some limit. Under any other the same chart is read if it nests no
deeper than that, and else its depth is what is reported; and the check passes it under the limits
it nests no deeper than. So a larger limit never hurts, the check passes what was read under the
same limit unless that is negative, and what was read in a translation is written. -/
theorem limits_agree :
    (∀ (source : String) (limit : Int) (chart : Chart), Chart.parse source limit = .ok chart →
      ∀ other : Int,
        ((chart.nesting : Int) ≤ max other 0 → Chart.parse source other = .ok chart) ∧
        (max other 0 < chart.nesting →
          ∃ e, Chart.parse source other = .error e ∧ e.TooDeep other) ∧
        ((∃ checked, chart.toTree.check other = .ok checked) ↔ (chart.nesting : Int) ≤ other) ∧
        (limit ≤ other → Chart.parse source other = .ok chart) ∧
        (0 ≤ limit → ∃ checked, chart.toTree.check limit = .ok checked)) ∧
    (∀ (source : String) (minify : Bool) (dialect : Option String) (e : RenderError),
      (translate source minify dialect).outcome ≠ .error (.render e)) ∧
    (∀ (request : Command.Request) (input : String) (e : RenderError),
      (request.produce input).outcome ≠ .error (.render e)) := by
  refine ⟨fun source limit chart read other => ?_, fun source minify dialect e failed => ?_,
    fun request input e failed => ?_⟩
  · have levels := nesting_le_of_parse read
    obtain ⟨within, deeper⟩ := parse_of_nesting read other
    refine ⟨within, deeper, exists_check_iff_of_parse read other, fun more => ?_, fun inside => ?_⟩
    · exact within (by omega)
    · exact (exists_check_iff_of_parse read limit).2 (by omega)
  · rw [outcome_translate] at failed
    split at failed
    · cases failed
    · split at failed <;> cases failed
  · rw [Command.Request.outcome_produce] at failed
    split at failed <;> cases failed

/-- An inline expression without rows counts. -/
theorem limits_agree_empty_block : ∃ chart e,
    Chart.parse "msc\x7ba alt b\x7b\x7d;\x7d" 1 = .ok chart ∧ chart.nesting = 1 ∧
      Chart.parse "msc\x7ba alt b\x7b\x7d;\x7d" 7 = .ok chart ∧
      Chart.parse "msc\x7ba alt b\x7b\x7d;\x7d" (-1) = .error e ∧
      e.text = "inline expressions nested deeper than -1 levels" ∧
      (∃ checked, chart.toTree.check 1 = .ok checked) := by
  have parsed : (Chart.parse "msc\x7ba alt b\x7b\x7d;\x7d" 1).toOption.any
      (fun chart => chart.nesting == 1) = true := by decide +kernel
  obtain ⟨chart, read, nests⟩ := Except.any_toOption_iff.1 parsed
  have nests : chart.nesting = 1 := beq_iff_eq.1 nests
  have agree := limits_agree.1 _ _ _ read
  obtain ⟨e, refused, report⟩ := (agree (-1)).2.1 (by rw [nests]; decide)
  exact ⟨chart, e, read, nests, (agree 7).2.2.2.1 (by decide), refused, report.text,
    (agree 1).2.2.2.2 (by decide)⟩

end Chart

end SeqChart
