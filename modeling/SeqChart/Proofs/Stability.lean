import SeqChart.Proofs.Chart.Flat
import SeqChart.Proofs.Flattening
import SeqChart.Proofs.Relabelling
import SeqChart.Proofs.Writing.Canonical
import SeqChart.Proofs.Writing.Translate
/-!
Translating what has been translated. Main statement, `translate_stable`: a text in between that
keeps inline expressions leaves no trace, and one that does not changes nothing from its second pass
on.
-/

namespace SeqChart

/-! ## What is read of a text that was written -/

namespace Chart

/-- An inline expression becomes a line, whose operator starts with no equals sign. -/
theorem opensLikeOption_of_flatten {chart : Chart} (proper : chart.Proper)
    (opens : chart.flatten.OpensLikeOption .mscgen) : chart.OpensLikeOption .mscgen := by
  obtain ⟨unwritten, none, kind, source, target, attrs, comments, row, rows, stands, bare, first⟩ :=
    opens
  have unset := Writer.keptOptions_eq_empty_iff.2 unwritten
  have options := (flat_flatten chart).options
  rw [Writer.keptOptions_mscgen] at unset
  have unset : Writer.keptOptions .mscgen chart.options = {} := by
    rw [Writer.keptOptions_mscgen]
    exact options.symm.trans unset
  have unwritten := Writer.keptOptions_eq_empty_iff.1 unset
  have stands : splitRows (Arc.flatRows [] chart.rows).1 = _ := stands
  have properRows := proper.rows
  match given : chart.rows with
  | [] =>
    rw [given] at stands
    cases stands
  | [] :: more =>
    rw [given] at properRows
    exact absurd rfl properRows.1
  | (arc :: rest) :: more =>
    -- What the first arc becomes comes first.
    rw [given] at stands
    match flat : (Arc.flat [] rest.isEmpty arc).1 with
    | [] => exact absurd flat (Arc.flat_ne_nil _ _ _)
    | item :: items =>
      simp only [Arc.flatRows, Arc.flatRow, flat, List.cons_append] at stands
      obtain ⟨row', rows', splits⟩ := splitRows_cons item _
      rw [splits] at stands
      obtain ⟨a, ends⟩ := item
      obtain ⟨rfl, -⟩ := List.cons.inj (List.cons.inj stands).1
      rcases Arc.message_of_flat flat with rfl | ⟨attrs', comments', rfl⟩
      · exact absurd first (by decide)
      · exact ⟨unwritten, List.map_eq_nil_iff.1 none, kind, source, target, attrs', comments', rest,
          more, given, bare, first⟩

/-- A text that keeps inline expressions is read as a chart with the same texts. -/
theorem chartText_of_back {chart chart' : Chart} {minify : Bool} {limit : Int}
    (proper : chart.Proper) (fits : (chart.nesting : Int) ≤ limit)
    (read : Chart.parse (String.ofList (Writer.chartText ⟨minify, .xu⟩ chart)) limit = .ok chart')
    (style : Style) : Writer.chartText style chart' = Writer.chartText style chart := by
  have closed : ¬ chart.OpensLikeOption .xu := fun opens =>
    Writer.parse_ne_ok_of_opens ⟨minify, .xu⟩ proper opens limit chart' read
  obtain ⟨found, read', same⟩ := Writer.parse_chartText proper fits minify closed
  cases read.symm.trans read'
  have known := (proper_of_parse read).options.extra
  rw [Writer.chartText_of_beq known same, Writer.chartText_withoutAutoWidth]

/-- A text without inline expressions is read as a flat chart that opens as the first one did. -/
theorem flat_of_back {chart chart' : Chart} {minify : Bool} {limit : Int} (proper : chart.Proper)
    (read : Chart.parse (String.ofList (Writer.chartText ⟨minify, .mscgen⟩ chart)) limit =
      .ok chart') :
    chart'.Proper ∧ chart'.Flat ∧ ¬ chart'.OpensLikeOption .mscgen := by
  have closed : ¬ chart.OpensLikeOption .mscgen := fun opens =>
    Writer.parse_ne_ok_of_opens ⟨minify, .mscgen⟩ proper opens limit chart' read
  obtain ⟨found, read', same⟩ := Writer.parse_chartText_mscgen proper minify closed limit
  cases read.symm.trans read'
  have proper' := proper_of_parse read
  have known := proper'.options.extra
  refine ⟨proper', (flat_flatten chart).of_beq known same, fun opens => ?_⟩
  have outline := sameOutline_of_beq (Chart.beq_symm known same)
  exact closed (opensLikeOption_of_flatten proper
    (opensLikeOption_of_sameOutline rfl outline opens))

/-- A flat chart comes back with the same texts, whatever the limit. -/
theorem Flat.comes_back {chart : Chart} (flat : chart.Flat) (proper : chart.Proper)
    (closed : ¬ chart.OpensLikeOption .mscgen) (minify : Bool) (limit : Int) :
    ∃ chart', Chart.parse (String.ofList (Writer.chartText ⟨minify, .mscgen⟩ chart)) limit =
        .ok chart' ∧
      ∀ style, Writer.chartText style chart' = Writer.chartText style chart := by
  obtain ⟨chart', read, same⟩ := Writer.parse_chartText_mscgen proper minify closed limit
  have known := (proper_of_parse read).options.extra
  refine ⟨chart', read, fun style => ?_⟩
  exact Writer.chartText_of_beq known (Chart.beq_trans known same flat.flatten_beq)

end Chart

/-! ## Translations -/

/-- Where two sources are read as charts with the same texts, their translations are the same. -/
theorem outcome_translate_congr {source source' : String} {chart chart' : Chart}
    (read : Chart.parse source = .ok chart) (read' : Chart.parse source' = .ok chart')
    (texts : ∀ style, Writer.chartText style chart' = Writer.chartText style chart) (minify : Bool)
    (name : Option String) :
    (translate source' minify name).outcome = (translate source minify name).outcome := by
  simp only [outcome_translate, read, read', texts]

theorem translate_eq_ok_iff {source text : String} {minify : Bool} {name : Option String}
    {dialect : Dialect} (known : Dialect.named name = .ok dialect) :
    (translate source minify name).outcome = .ok text ↔ ∃ chart, Chart.parse source = .ok chart ∧
      text = String.ofList (Writer.chartText { minify, dialect } chart) := by
  rw [outcome_translate, known]
  cases Chart.parse source with
  | error e => simp
  | ok chart => simp [eq_comm]

/-- Let a translation be accepted as a source itself. Then it can be translated to every dialect. If
it kept inline expressions, what comes of it is what comes of the first source, letter by letter. If
not, a second pass gives a text that is accepted too, and from there on what comes of it stays the
same. -/
theorem translate_stable {source text : String} {chart : Chart} {minify : Bool}
    {name : Option String} {dialect : Dialect} (known : Dialect.named name = .ok dialect)
    (made : (translate source minify name).outcome = .ok text)
    (accepted : Chart.parse text = .ok chart) :
    (∀ minify' name' dialect', Dialect.named name' = .ok dialect' →
      ∃ text', (translate text minify' name').outcome = .ok text') ∧
    (dialect = .xu → ∀ minify' name',
      (translate text minify' name').outcome = (translate source minify' name').outcome) ∧
    (dialect = .mscgen → ∀ minify' name' text', Dialect.named name' = .ok .mscgen →
      (translate text minify' name').outcome = .ok text' →
      (∃ chart', Chart.parse text' = .ok chart') ∧
      ∀ minify'' name'',
        (translate text' minify'' name'').outcome = (translate text minify'' name'').outcome) := by
  obtain ⟨first, read, rfl⟩ := (translate_eq_ok_iff known).1 made
  have proper := Chart.proper_of_parse read
  refine ⟨fun minify' name' dialect' known' => ?_, ?_, ?_⟩
  · exact ⟨_, (translate_eq_ok_iff known').2 ⟨chart, accepted, rfl⟩⟩
  · rintro rfl minify' name'
    have fits : (first.nesting : Int) ≤ standardDepth :=
      Int.ofNat_le.2 (Chart.nesting_le_of_parse read)
    exact outcome_translate_congr read accepted (Chart.chartText_of_back proper fits accepted)
      minify' name'
  · rintro rfl minify' name' text' known' made'
    obtain ⟨again, read', rfl⟩ := (translate_eq_ok_iff known').1 made'
    cases accepted.symm.trans read'
    obtain ⟨proper', flat, closed⟩ := Chart.flat_of_back proper accepted
    obtain ⟨chart', accepted', texts⟩ := flat.comes_back proper' closed minify' standardDepth
    exact ⟨⟨chart', accepted'⟩, outcome_translate_congr accepted accepted' texts⟩

/-- A chart that ends with a block. -/
def blockAtEnd : String := "msc\x7ba,b;a alt b[title=\"t\"]\x7ba=>b;\x7d;\x7d"

/-- The first pass marks the end of the block with a comment, which is lost in the second. -/
theorem translate_stable_blockAtEnd : ∃ text text',
    (translate blockAtEnd true (some "mscgen")).outcome = .ok text ∧
      (translate text true (some "mscgen")).outcome = .ok text' ∧ text' ≠ text ∧
      ∀ minify name,
        (translate text' minify name).outcome = (translate text minify name).outcome := by
  have known : Dialect.named (some "mscgen") = .ok .mscgen := by decide +kernel
  have computed : (translate blockAtEnd true (some "mscgen")).outcome.toOption.any (fun text =>
      (Chart.parse text).toOption.any fun _ =>
        (translate text true (some "mscgen")).outcome.toOption.any (· != text)) = true := by
    decide +kernel
  obtain ⟨text, made, rest⟩ := Except.any_toOption_iff.1 computed
  obtain ⟨chart, accepted, rest⟩ := Except.any_toOption_iff.1 rest
  obtain ⟨text', made', differs⟩ := Except.any_toOption_iff.1 rest
  obtain ⟨-, -, stable⟩ := translate_stable known made accepted
  exact ⟨text, text', made, made', bne_iff_ne.1 differs,
    (stable rfl true _ text' known made').2⟩

end SeqChart
