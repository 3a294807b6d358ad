import SeqChart.Proofs.Chart.Outline
import SeqChart.Proofs.RoundTrip
/-!
Other values under the attributes of a chart that comes back from its text. Main statement,
`relabelled_comes_back_iff`: the chart with the other values comes back too, with the same outline,
when the values can stand between quotes, and only then. Where a value cannot, it may end its string
early, and the rest of it is read as part of the chart (`label_adds_row`).
-/

namespace SeqChart

open Grammar

/-! ## The first statement -/

namespace Arc

theorem message_of_outline {arc : Arc String String} {kind : ArcKind} {source target : String}
    {attrs : Mapping String String} {comments : List String}
    (alike : same arc.outline (.message kind source target attrs comments) = true) :
    ∃ attrs', arc = .message kind source target attrs' comments := by
  cases arc with
  | message =>
    obtain ⟨_, same, -⟩ := same_message_iff.1 alike
    cases same
    exact ⟨_, rfl⟩
  | _ => simp [outline, same] at alike

theorem first_of_outline {rows rest : Rows String String} {arc : Arc String String}
    {row : List (Arc String String)}
    (alike : sameRows (outlineRows rows) ((arc :: row) :: rest) = true) :
    ∃ arc' row' rest', rows = (arc' :: row') :: rest' ∧ same arc'.outline arc = true := by
  match rows with
  | (arc' :: row') :: rest' =>
    simp only [outlineRows, outlineRow, sameRows, sameRow, Bool.and_eq_true] at alike
    exact ⟨arc', row', rest', rfl, alike.1.1⟩
  | [] :: _ => simp [outlineRows, outlineRow, sameRows, sameRow] at alike
  | [] => simp [outlineRows, sameRows] at alike

end Arc

theorem Chart.opensLikeOption_of_sameOutline {a b : Chart} {dialect : Dialect}
    (known : a.options.extra = ∅) (same : a.SameOutline b) (opens : b.OpensLikeOption dialect) :
    a.OpensLikeOption dialect := by
  obtain ⟨sameOptions, sameEntities, sameRows, -⟩ := Chart.beq_iff.1 same
  obtain ⟨unwritten, none, kind, source, target, attrs, comments, row, rest, stands, bare, first⟩ :=
    opens
  have options : a.options = b.options := Options.eq_of_beq known sameOptions
  have entities : a.entities = [] := by
    have lengths := sameEntities.length_eq
    simpa [Chart.outline, none] using lengths
  have rows : Arc.sameRows (Arc.outlineRows a.rows) (Arc.outlineRows b.rows) = true := sameRows
  rw [stands] at rows
  obtain ⟨arc, row', rest', stands', alike⟩ := Arc.first_of_outline rows
  obtain ⟨attrs', rfl⟩ := Arc.message_of_outline alike
  exact ⟨options ▸ unwritten, entities, kind, source, target, attrs', comments, row', rest',
    stands', bare, first⟩

/-! ## Which values come back -/

/-- Let a chart come back from its text. With other values under its attributes it can still be
written, and what is read then has the same outline and these values, unless some value cannot stand
between quotes: then the chart does not come back. -/
theorem Chart.relabelled_comes_back_iff {chart relabelled : Chart} {limit : Int} {minify : Bool}
    (back : ∃ text read, (chart.render ⟨minify, .xu⟩ limit).outcome = .ok text ∧
      Chart.parse text limit = .ok read ∧ (read == chart) = true)
    (same : chart.SameOutline relabelled) (minify' : Bool) :
    ∃ text, (relabelled.render ⟨minify', .xu⟩ limit).outcome = .ok text ∧
      ((∃ read, Chart.parse text limit = .ok read ∧ (read == relabelled) = true ∧
          chart.SameOutline read) ↔
        ∀ value ∈ relabelled.attributeValues, EscapeComplete value.toList) := by
  obtain ⟨text, read, written, parsed, equal⟩ := back
  obtain ⟨proper, other, fits, closed⟩ := Writer.proper_of_back written parsed equal
  have known : chart.options.extra = ∅ := proper.options.extra
  have outline : relabelled.outline.Proper := (Chart.proper_iff.1 proper).1.of_beq same
  have filled : relabelled.Filled := Chart.filled_outline.1 outline.filled
  have fits' : (relabelled.nesting : Int) ≤ limit := Chart.nesting_of_sameOutline same ▸ fits
  refine ⟨_, Chart.render_eq_ok_iff.2 ⟨⟨filled, fits'⟩, rfl⟩, ?_, ?_⟩
  · rintro ⟨read', parsed', equal', -⟩
    -- What is read is proper, and its values are those of the chart.
    have proper' := (Chart.parse_eq_ok.1 parsed').1.proper.1.of_beq equal'
    exact (Chart.proper_iff.1 proper').2
  · intro complete
    have proper' : relabelled.Proper := Chart.proper_iff.2 ⟨outline, complete⟩
    have closed' : ¬ relabelled.OpensLikeOption .xu := fun opens =>
      closed (Chart.opensLikeOption_of_sameOutline known same opens)
    obtain ⟨read', parsed', equal'⟩ := Writer.parse_chartText proper' fits' minify' closed'
    have options : chart.options = relabelled.options :=
      Options.eq_of_beq known (Chart.beq_iff.1 same).1
    rw [Chart.withoutAutoWidth_eq_self (options ▸ other)] at equal'
    refine ⟨read', parsed', equal', ?_⟩
    have back := Chart.sameOutline_of_beq equal'
    have known' : read'.options.extra = ∅ := (Chart.parse_eq_ok.1 parsed').1.proper.1.options.extra
    exact Chart.beq_trans known same (Chart.beq_symm known' back)

/-- A message with a label. -/
def labelled (label : String) : Chart where
  options := {}
  rows := [[.message .signal "a" "b" (Mapping.ofList [("label", label)]) []]]

theorem labelled_comes_back :
    ∃ text read, ((labelled "x").render ⟨false, .xu⟩ 0).outcome = .ok text ∧
      Chart.parse text 0 = .ok read ∧ (read == labelled "x") = true := by
  have computed : ((labelled "x").render ⟨false, .xu⟩ 0).outcome.toOption.any (fun text =>
      (Chart.parse text 0).toOption.any fun read => read == labelled "x") = true := by
    decide +kernel
  obtain ⟨text, written, rest⟩ := Except.any_toOption_iff.1 computed
  obtain ⟨read, parsed, equal⟩ := Except.any_toOption_iff.1 rest
  exact ⟨text, read, written, parsed, equal⟩

/-- A quote in a label does not end it. -/
theorem Chart.relabelled_comes_back_quote :
    (labelled "x").SameOutline (labelled "\"];c->d;#") ∧
    ∃ text, ((labelled "\"];c->d;#").render ⟨true, .xu⟩ 0).outcome = .ok text ∧
      ∃ read, Chart.parse text 0 = .ok read ∧ (read == labelled "\"];c->d;#") = true ∧
        (labelled "x").SameOutline read := by
  have same : (labelled "x").SameOutline (labelled "\"];c->d;#") := by
    rw [Chart.SameOutline]
    decide
  have complete : ∀ value ∈ (labelled "\"];c->d;#").attributeValues,
      EscapeComplete value.toList := by
    have values : (labelled "\"];c->d;#").attributeValues = ["\"];c->d;#"] := by decide
    rw [values, List.forall_mem_singleton]
    exact EscapeComplete.of_plain (List.forall_mem_ne'.2 (by decide))
  obtain ⟨text, written, back⟩ :=
    Chart.relabelled_comes_back_iff labelled_comes_back same true
  exact ⟨same, text, written, back.2 complete⟩

/-- A backslash before a quote is not escaped, so that the quote ends the label. -/
theorem Chart.label_adds_row :
    (∃ text read, ((labelled "x").render ⟨false, .xu⟩ 0).outcome = .ok text ∧
      Chart.parse text 0 = .ok read ∧ (read == labelled "x") = true) ∧
    (labelled "x").SameOutline (labelled "\\\"];c->d;#") ∧
    ∃ text read, ((labelled "\\\"];c->d;#").render ⟨false, .xu⟩ 0).outcome = .ok text ∧
      Chart.parse text 0 = .ok read ∧ ¬ (labelled "x").SameOutline read := by
  have same : (labelled "x").SameOutline (labelled "\\\"];c->d;#") := by
    rw [Chart.SameOutline]
    decide
  have added : ((labelled "\\\"];c->d;#").render ⟨false, .xu⟩ 0).outcome.toOption.any (fun text =>
      (Chart.parse text 0).toOption.any fun read =>
        !((labelled "x").outline == read.outline)) = true := by
    decide +kernel
  obtain ⟨text, written, rest⟩ := Except.any_toOption_iff.1 added
  obtain ⟨read, parsed, differs⟩ := Except.any_toOption_iff.1 rest
  refine ⟨labelled_comes_back, same, text, read, written, parsed, fun same' => ?_⟩
  rw [Chart.SameOutline] at same'
  simp [same'] at differs

end SeqChart
