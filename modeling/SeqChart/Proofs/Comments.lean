import SeqChart.Proofs.Data.Except
import SeqChart.Proofs.Reading.Placement
/-!
Which comments of a text its chart has. Main statement, `comments_by_position`: the position of a
comment among the tokens of the text decides, and nothing else.
-/

namespace SeqChart

open Grammar

/-- Cut the text of a chart into tokens and layout, which can be done in one way only. The comments
before the first token are those of the chart. Behind it, each entity and each arc has the comments
of the run that leads to it, in the order of the text, and all other comments are lost. -/
theorem Chart.comments_by_position {source : String} {limit : Int} {chart : Chart}
    (read : Chart.parse source limit = .ok chart) :
    ∃ runs, (∀ head others, Runs source.toList head others ↔
        head = chart.comments ∧ others = runs) ∧
      Places runs chart.owners := by
  obtain ⟨runs, cut, places⟩ := (Chart.parse_eq_ok.1 read).1.places
  refine ⟨runs, fun head others => ⟨fun cut' => cut'.unique cut, ?_⟩, places⟩
  rintro ⟨rfl, rfl⟩
  exact cut

/-- The comments with a number belong to the chart, to its entities and to its first arcs; those
before and behind braces are lost. -/
def commentedText : String :=
  "#0 \nmsc\x7b/*1*/a,/*2*/b;/*3*/a alt b/*-*/\x7b//4\na->b;/*-*/\x7d/*-*/a->a;/*-*/\x7d"

theorem Chart.comments_by_position_commentedText : ∃ chart,
    Chart.parse commentedText 1 = .ok chart ∧
    (∃ runs, (∀ head others, Runs commentedText.toList head others ↔
        head = chart.comments ∧ others = runs) ∧
      Places runs chart.owners) ∧
    chart.comments = ["#0"] ∧
    chart.owners.map Owner.comments = [["/*1*/"], ["/*2*/"], ["/*3*/"], ["//4"], []] := by
  have computed : (Chart.parse commentedText 1).toOption.any (fun chart =>
      chart.comments == ["#0"] &&
        chart.owners.map Owner.comments ==
          [["/*1*/"], ["/*2*/"], ["/*3*/"], ["//4"], []]) = true := by
    decide +kernel
  obtain ⟨chart, read, found⟩ := Except.any_toOption_iff.1 computed
  rw [Bool.and_eq_true, beq_iff_eq, beq_iff_eq] at found
  exact ⟨chart, read, Chart.comments_by_position read, found⟩

end SeqChart
