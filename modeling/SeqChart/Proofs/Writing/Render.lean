import SeqChart.Proofs.Chart.Check
import SeqChart.Proofs.Chart.Proper
import SeqChart.Writer.Render
/-!
Writing a chart as a whole. Main statement, `render_eq_ok_iff`: a text comes of it when the chart
passes the check, and that text is made from the chart alone, whatever the notes.
-/

namespace SeqChart

theorem Logged.outcome_bind {ε α β : Type} (x : Logged ε α) (f : α → Logged ε β) :
    (x >>= f).outcome = x.outcome >>= fun a => (f a).outcome := by
  obtain ⟨notes, outcome⟩ := x
  cases outcome <;> rfl

namespace Writer

/-- A list is read when each of its items is. -/
theorem isSome_mapM_iff {α β : Type} {read? : α → Option β} {items : List α} :
    (items.mapM read?).isSome = true ↔ ∀ item ∈ items, (read? item).isSome = true := by
  induction items with
  | nil => simp
  | cons item rest step =>
    rw [List.forall_mem_cons, ← step, List.mapM_cons]
    cases read? item <;> cases rest.mapM read? <;> simp

theorem isSome_extraNames?_iff {keys : List Scalar} :
    (extraNames? keys).isSome = true ↔ ∀ key ∈ keys, ∃ name, key = .text name := by
  unfold extraNames?
  rw [Option.isSome_map, isSome_mapM_iff]
  refine forall₂_congr fun key _ => ?_
  cases key <;> simp

/-- What has passed the check is not refused by it again. -/
theorem outcome_checkedText (style : Style) (checked : Checked) :
    (checkedText style checked).outcome = if (extraNames? checked.extraKeys).isSome = true
      then .ok (String.ofList (chartText style checked.chart)) else .error .extraKeys := by
  unfold checkedText
  cases extraNames? checked.extraKeys with
  | none => rfl
  | some names => cases names <;> rfl

/-- The options that no dialect knows are not written. -/
theorem chartText_known (style : Style) (chart : Chart) :
    chartText style chart.known = chartText style chart := rfl

end Writer

theorem Chart.render_eq_ok_iff {chart : Chart} {style : Style} {limit : Int} {text : String} :
    (chart.render style limit).outcome = .ok text ↔ (chart.Filled ∧ (chart.nesting : Int) ≤ limit) ∧
      text = String.ofList (Writer.chartText style chart) := by
  have passes (checked : Checked) : (chart.toTree.check limit).mapError RenderError.misfit =
      .ok checked ↔ chart.toTree.check limit = .ok checked := by
    cases chart.toTree.check limit <;> simp [Except.mapError]
  rw [Chart.render, Tree.render, Logged.outcome_bind, Except.bind_eq_ok_iff]
  have listed : (Writer.extraNames?
      (chart.options.extra.entries.map fun entry => Scalar.text entry.1)).isSome = true :=
    Writer.isSome_extraNames?_iff.2 fun key member => by
      obtain ⟨entry, -, rfl⟩ := List.mem_map.1 member
      exact ⟨entry.1, rfl⟩
  simp only [Logged.quiet, passes, Chart.check_toTree_eq_ok_iff, Writer.outcome_checkedText]
  constructor
  · rintro ⟨checked, ⟨fits, rfl⟩, written⟩
    rw [if_pos listed, Writer.chartText_known] at written
    exact ⟨fits, (Except.ok.inj written).symm⟩
  · rintro ⟨fits, rfl⟩
    refine ⟨_, ⟨fits, rfl⟩, ?_⟩
    rw [if_pos listed, Writer.chartText_known]

/-! ## Proper charts -/

namespace Arc

mutual

theorem Proper.filled : ∀ {arc : Arc String String}, arc.Proper → arc.Filled
  | .message .., proper => ⟨proper.1.1, proper.2.1.1⟩
  | .box .., proper => ⟨proper.2.1.1, proper.2.2.1.1⟩
  | .empty .., _ => trivial
  | .inline .., proper =>
    ⟨proper.2.1.1, proper.2.2.1.1, filledRows_of_proper proper.2.2.2.2.2⟩

theorem filledRow_of_proper : ∀ {row : List (Arc String String)}, ProperRow row → FilledRow row
  | [], _ => trivial
  | _ :: _, proper => ⟨proper.1.filled, filledRow_of_proper proper.2⟩

theorem filledRows_of_proper : ∀ {rows : Rows String String}, ProperRows rows → FilledRows rows
  | [], _ => trivial
  | _ :: _, proper =>
    ⟨proper.1, filledRow_of_proper proper.2.1, filledRows_of_proper proper.2.2⟩

end

end Arc

theorem Chart.Proper.filled {chart : Chart} (proper : chart.Proper) : chart.Filled :=
  ⟨fun entity member => (proper.entities entity member).name.1,
    Arc.filledRows_of_proper proper.rows⟩

end SeqChart
