import SeqChart.Proofs.Data.Except
import SeqChart.Proofs.Reading.Chart
/-!
Which texts are accepted. Main statement, `parse_eq_ok_iff_program`: those of the grammar, but for
the texts whose first statement is an arc that starts like an option.
-/

namespace SeqChart

open Grammar

/-- A text is read as a chart exactly when the grammar has it so, and no options are missing where
a word with an equals sign behind it opens the chart. That sign may belong to an operator. -/
theorem Chart.parse_eq_ok_iff_program (source : String) (limit : Int) (chart : Chart) :
    Chart.parse source limit = .ok chart ↔ Program limit.toNat source.toList chart ∧
      ¬ (chart.options = {} ∧ OpensWithAssignment source.toList) := by
  rw [not_and]
  exact Chart.parse_eq_ok

/-- A chart that consists of one message is refused for its operator. -/
theorem Chart.bare_first_name_refused :
    (∃ chart, Program 0 "msc\x7ba=>b;\x7d".toList chart) ∧
      ∀ chart, Chart.parse "msc\x7ba=>b;\x7d" 0 ≠ .ok chart := by
  constructor
  · have word (c : Char) (s : List Char) (letter : Text.isWord c = true) (ends : EndsWord s) :
        Word (c :: s) [c] s := word_append (w := [c]) ⟨by simp, by simpa using letter⟩ ends
    have source : End ['a', '=', '>', 'b', ';', '\x7d'] "a" ['=', '>', 'b', ';', '\x7d'] :=
      .name (.bare (word 'a' _ (by decide) (by rintro c ⟨⟩; decide))
        (by decide))
    have operator : Operator ['=', '>', 'b', ';', '\x7d'] .method ['b', ';', '\x7d'] := by
      have longest : ∀ other ∈ ArcKind.all, other.token.toList <+: ['=', '>', 'b', ';', '\x7d'] →
          other.token.toList.length ≤ 2 := by decide
      exact ⟨rfl, fun other => longest other (ArcKind.mem_all other)⟩
    have target : End ['b', ';', '\x7d'] "b" [';', '\x7d'] :=
      .name (.bare (word 'b' _ (by decide) (by rintro c ⟨⟩; decide))
        (by decide))
    have rows : RowList (Block 0) [] ['a', '=', '>', 'b', ';', '\x7d']
        [[.message .method "a" "b" ∅ []]] ['\x7d'] :=
      .closed (.one (.message source (Gap.refl _) operator (Gap.refl _) target .absent))
        (Gap.refl _) .done .nil
    have keyword : Keyword "msc" "msc\x7ba=>b;\x7d".toList
        ['\x7b', 'a', '=', '>', 'b', ';', '\x7d'] := by
      refine ⟨['m', 's', 'c'],
        word_append (w := ['m', 's', 'c']) ⟨by simp, by decide⟩ ?_, by decide⟩
      rintro c ⟨⟩
      decide
    exact ⟨_, .mk .done keyword (Gap.refl _) .done (.mk .absent .absent rows) (Gap.refl _)
      (Gap.refl _)⟩
  · have refused : (Chart.parse "msc\x7ba=>b;\x7d" 0).toOption.isNone = true := by decide +kernel
    intro chart read
    rw [read] at refused
    cases refused

end SeqChart
