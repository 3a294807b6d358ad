import SeqChart.Proofs.RoundTrip
/-!
What the text of a chart does not depend on. Main statements: equal charts have the same text,
whatever the order of their attributes (`chartText_of_beq`), and an automatic width leaves no trace
in it (`chartText_withoutAutoWidth`).
-/

namespace SeqChart.Writer

variable {style : Style}

/-! ## The order of attributes -/

theorem attributesText_of_beq {attrs attrs' : Mapping String String}
    (same : (attrs == attrs') = true) :
    attributesText style attrs = attributesText style attrs' := by
  unfold attributesText
  simp only [Mapping.beq_iff.1 same]

mutual

theorem arcText_of_same : ∀ {level : Nat} {arc arc' : Arc String String},
    Arc.same arc arc' = true → arcText style level arc = arcText style level arc'
  | _, .message .., _, same => by
    obtain ⟨_, rfl, attrs⟩ := Arc.same_message_iff.1 same
    rw [arcText, arcText, attributesText_of_beq attrs]
  | _, .box .., _, same => by
    obtain ⟨_, rfl, attrs⟩ := Arc.same_box_iff.1 same
    rw [arcText, arcText, attributesText_of_beq attrs]
  | _, .empty .., _, same => by
    obtain ⟨_, rfl, attrs⟩ := Arc.same_empty_iff.1 same
    rw [arcText, arcText, attributesText_of_beq attrs]
  | _, .inline .., _, same => by
    obtain ⟨_, _, rfl, rows, attrs⟩ := Arc.same_inline_iff.1 same
    rw [arcText, arcText, attributesText_of_beq attrs, rowsText_of_same rows]

theorem rowText_of_same : ∀ {level : Nat} {row row' : List (Arc String String)},
    Arc.sameRow row row' = true → rowText style level row = rowText style level row'
  | _, [], [], _ => rfl
  | level, arc :: rest, arc' :: rest', same => by
    rw [Arc.sameRow, Bool.and_eq_true] at same
    obtain ⟨first, more⟩ := same
    have last : rest.isEmpty = rest'.isEmpty := by
      cases rest <;> cases rest' <;> simp_all [Arc.sameRow]
    have comments : arc.comments = arc'.comments := Arc.comments_of_same first
    have ending : arcEnd style arc = arcEnd style arc' := by
      rw [arcEnd, arcEnd, Arc.isInline_of_same first]
    rw [rowText, rowText, arcText_of_same first, rowText_of_same more, last, comments, ending]

theorem rowsText_of_same : ∀ {level : Nat} {rows rows' : Rows String String},
    Arc.sameRows rows rows' = true → rowsText style level rows = rowsText style level rows'
  | _, [], [], _ => rfl
  | _, _ :: _, _ :: _, same => by
    rw [Arc.sameRows, Bool.and_eq_true] at same
    rw [rowsText, rowsText, rowText_of_same same.1, rowsText_of_same same.2]

end

theorem entityText_of_beq {entity entity' : Entity String String}
    (same : (entity == entity') = true) :
    (entity.comments, entityText style entity) = (entity'.comments, entityText style entity') := by
  obtain ⟨name, attrs, comments⟩ := Entity.beq_iff.1 same
  rw [entityText, entityText, name, comments, attributesText_of_beq attrs]

/-- Equal charts have the same text. -/
theorem chartText_of_beq {chart chart' : Chart} (known : chart.options.extra = ∅)
    (same : (chart == chart') = true) : chartText style chart = chartText style chart' := by
  obtain ⟨options, entities, rows, comments⟩ := Chart.beq_iff.1 same
  have listed : chart.entities.map (fun entity => (entity.comments, entityText style entity)) =
      chart'.entities.map (fun entity => (entity.comments, entityText style entity)) :=
    List.forall₂_eq_eq_eq ▸ List.forall₂_map_left_iff.2 (List.forall₂_map_right_iff.2
      (entities.imp fun _ _ same => entityText_of_beq same))
  rw [chartText, chartText, Options.eq_of_beq known options, listed, rowsText_of_same rows,
    comments]

/-! ## The automatic width -/

theorem filter_isWritten_withoutAutoWidth (dialect : Dialect)
    (options : Options String Bool String) :
    ({ options with width := options.width.filter (· != "auto") } :
      Options String Bool String).settings.filter (isWritten dialect) =
        options.settings.filter (isWritten dialect) := by
  unfold Options.settings
  rw [List.filter_filterMap, List.filter_filterMap]
  refine List.filterMap_congr fun name _ => ?_
  match name with
  | .flag _ => rfl
  | .text .hscale | .text .arcgradient | .text .watermark => rfl
  | .text .width =>
    show Option.filter _ ((options.width.filter _).map _) = Option.filter _ (options.width.map _)
    cases options.width with
    | none => rfl
    | some value =>
      cases kept : value != "auto" <;> simp [Option.filter, isWritten_width, kept]

theorem chartText_withoutAutoWidth (style : Style) (chart : Chart) :
    chartText style chart.withoutAutoWidth = chartText style chart := by
  have options : optionsText style chart.withoutAutoWidth.options =
      optionsText style chart.options := by
    rw [optionsText_eq, optionsText_eq, ← filter_isWritten_withoutAutoWidth _ chart.options]
    rfl
  rw [chartText, chartText, options]
  rfl

end SeqChart.Writer
