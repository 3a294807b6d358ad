import SeqChart.Command.Run
import SeqChart.Proofs.Reading.Chart
import SeqChart.Proofs.Writing.Render
/-!
Reading and writing in one go. What has been read is always written: `outcome_translate` and
`outcome_produce` give what comes of it, and the writer has no part in what can go wrong.
-/

namespace SeqChart

namespace Chart

theorem outcome_read (source : String) (limit : Int) :
    (Chart.read source limit).outcome = Chart.parse source limit := by
  rw [Chart.read, Logged.outcome_bind]
  cases read : Chart.parse source limit with
  | error e => rw [Logged.quiet]; rfl
  | ok chart => rw [Logged.quiet]; rfl

/-- Under a limit that its blocks stay within, a chart that was read is written. -/
theorem outcome_render_of_parse {source : String} {limit limit' : Int} {chart : Chart}
    (read : Chart.parse source limit = .ok chart) (fits : (chart.nesting : Int) ≤ limit')
    (style : Style) :
    (chart.render style limit').outcome = .ok (String.ofList (Writer.chartText style chart)) :=
  Chart.render_eq_ok_iff.2 ⟨⟨(proper_of_parse read).filled, fits⟩, rfl⟩

/-- Reading and writing under the same limit, which is the standard one. -/
theorem outcome_render_of_parse_standard {source : String} {chart : Chart}
    (read : Chart.parse source = .ok chart) (style : Style) :
    (chart.render style).outcome = .ok (String.ofList (Writer.chartText style chart)) :=
  outcome_render_of_parse read (Int.ofNat_le.2 (nesting_le_of_parse read)) style

end Chart

/-- A translation goes wrong in its dialect name or its source, else the text of the chart comes
of it. -/
theorem outcome_translate (source : String) (minify : Bool) (name : Option String) :
    (translate source minify name).outcome =
      match Dialect.named name with
      | .error e => .error (.dialect e)
      | .ok dialect =>
        match Chart.parse source with
        | .error e => .error (.source e)
        | .ok chart => .ok (String.ofList (Writer.chartText { minify, dialect } chart)) := by
  rw [translate, Logged.outcome_bind]
  cases Dialect.named name with
  | error e => rfl
  | ok dialect =>
    show ((Chart.read source).mapError TranslateError.source >>= _).outcome = _
    rw [Logged.outcome_bind, Logged.mapError, Chart.outcome_read]
    cases read : Chart.parse source with
    | error e => rfl
    | ok chart =>
      show ((chart.render { minify, dialect }).outcome).mapError TranslateError.render = _
      rw [Chart.outcome_render_of_parse_standard read]
      rfl

/-- A request goes wrong in its source, else its text comes of it. -/
theorem Command.Request.outcome_produce (request : Command.Request) (input : String) :
    (request.produce input).outcome =
      match Chart.parse (Command.unixText input) with
      | .error e => .error (.source e)
      | .ok chart => .ok ((if request.json then Json.document chart.toPlain else String.ofList
          (Writer.chartText { minify := request.minify, dialect := request.dialect } chart)).push
            '\n') := by
  rw [produce, Logged.outcome_bind, Logged.mapError, Chart.outcome_read]
  cases read : Chart.parse (unixText input) with
  | error e => rfl
  | ok chart =>
    show (request.form chart >>= _).outcome = _
    rw [Logged.outcome_bind, form]
    split
    · rfl
    · rw [Logged.mapError, Chart.outcome_render_of_parse_standard read]
      rfl

end SeqChart
