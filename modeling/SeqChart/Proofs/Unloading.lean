import SeqChart.Proofs.Chart.Codec
import SeqChart.Proofs.Chart.Keys
import SeqChart.Proofs.Chart.Same
import SeqChart.Proofs.Data.Plain
import SeqChart.Proofs.Reading.Chart
import SeqChart.RoundTrip
/-!
Charts as plain data. Main statement, `plain_round_trip`: a chart comes back from plain data as it
was exactly when the keys that no dialect knows are settled, and of every chart that was read or
loaded they are.
-/

namespace SeqChart

namespace LooseOptions

/-- Options that are left out when none is set come back, and as they were if their keys are
settled. -/
theorem comes_back (options : LooseOptions) : ∃ back : LooseOptions,
    (if options.isEmpty then .ok {} else load (toPlain options)) = .ok back ∧
      (options.KeysSettled → back = options) := by
  split
  · rename_i empty
    exact ⟨{}, rfl, fun _ => (Options.eq_of_isEmpty empty).symm⟩
  · refine ⟨_, load_record _, fun settled => ?_⟩
    exact Except.ok.inj ((load_record _).symm.trans (load_toPlain settled))

end LooseOptions

theorem Options.keysSettled_of_beq {a b : LooseOptions} (same : (a == b) = true)
    (settled : a.KeysSettled) : b.KeysSettled := by
  rw [Options.beq_eq] at same
  simp only [Bool.and_eq_true] at same
  obtain ⟨-, -, -, -, -, -, -, extra⟩ := same
  intro key member
  exact settled key ((Mapping.keys_perm_of_beq extra).mem_iff.2 member)

namespace LooseChart

/-- The options that a member holds; none is set if it is absent. -/
def optionsAt (members : List (Scalar × Plain)) : Except LoadError LooseOptions :=
  match Plain.member? "options" members with
  | some value => LooseOptions.load value
  | none => .ok {}

theorem load_eq_ok_iff {members : List (Scalar × Plain)} {chart : LooseChart} :
    load (.object members) = .ok chart ↔
      optionsAt members = .ok chart.options ∧
      (∃ items, Plain.itemsAt "entities" members = .ok items ∧
        items.mapM Entity.load = .ok chart.entities) ∧
      Arc.loadRowsAt members = .ok chart.rows ∧
      Plain.itemsAt "comments" members = .ok chart.comments := by
  have stages : load (.object members) = (do
      let options ← optionsAt members
      let entities ← (← Plain.itemsAt "entities" members).mapM Entity.load
      let rows ← Arc.loadRowsAt members
      let comments ← Plain.itemsAt "comments" members
      .ok { options, entities, rows, comments }) := by
    simp only [load, Plain.members, optionsAt, bind, Except.bind]
    cases Plain.member? "options" members <;> rfl
  simp only [stages, Except.bind_eq_ok_iff]
  constructor
  · rintro ⟨options, hasOptions, items, hasItems, entities, hasEntities, rows, hasRows, comments,
      hasComments, made⟩
    cases made
    exact ⟨hasOptions, ⟨items, hasItems, hasEntities⟩, hasRows, hasComments⟩
  · rintro ⟨hasOptions, ⟨items, hasItems, hasEntities⟩, hasRows, hasComments⟩
    exact ⟨_, hasOptions, items, hasItems, _, hasEntities, _, hasRows, _, hasComments, rfl⟩

theorem keysSettled_of_load {data : Plain} {chart : LooseChart} (loaded : load data = .ok chart) :
    chart.options.KeysSettled := by
  obtain ⟨members, isObject, -⟩ := Except.bind_eq_ok_iff.1 loaded
  obtain rfl : data = .object members := by
    cases data <;> cases isObject
    rfl
  have options := (load_eq_ok_iff.1 loaded).1
  rw [optionsAt] at options
  split at options
  · exact LooseOptions.keysSettled_of_load options
  · rw [← Except.ok.inj options]
    exact Options.keysSettled_of_extra rfl

/-- All but the options comes back as it was. -/
theorem load_toPlain (chart : LooseChart) : ∃ back : LooseOptions,
    load chart.toPlain = .ok { chart with options := back } ∧
      (chart.options.KeysSettled → back = chart.options) := by
  obtain ⟨back, options, same⟩ := LooseOptions.comes_back chart.options
  refine ⟨back, ?_, same⟩
  rw [toPlain, Content.toPlain, Plain.record_eq, load_eq_ok_iff]
  refine ⟨?_, ⟨_, Plain.itemsAt_of_present (by simp), Entity.mapM_load chart.entities⟩, ?_,
    Plain.itemsAt_of_member? (by simp)⟩
  · rw [← options, optionsAt]
    cases empty : Options.isEmpty chart.options <;> simp
  · rw [Arc.loadRowsAt_eq]
    simp [Arc.loadRows, Arc.loadRowList_rowsToPlain chart.rows]

theorem load_toPlain_of_keysSettled {chart : LooseChart} (settled : chart.options.KeysSettled) :
    load chart.toPlain = .ok chart := by
  obtain ⟨back, loaded, same⟩ := load_toPlain chart
  rw [loaded, same settled]

theorem keysSettled_of_beq {a b : LooseChart} (same : (a == b) = true)
    (settled : a.options.KeysSettled) : b.options.KeysSettled := by
  rw [ChartOf.beq_eq] at same
  simp only [Bool.and_eq_true] at same
  exact Options.keysSettled_of_beq same.1.1.1 settled

theorem keysSettled_of_parse {source : String} {limit : Int} {chart : Chart}
    (read : Chart.parse source limit = .ok chart) : chart.loosen.options.KeysSettled := by
  have known := (Chart.proper_of_parse read).options.extra
  refine Options.keysSettled_of_extra ?_
  show chart.options.extra.mapValues _ = ∅
  rw [known]
  rfl

/-- A chart, whatever its nesting and its values, comes back from plain data, and as it was exactly
when its keys are settled. They are in a chart that was read, which has no keys but known ones, and
in one that was loaded, since loading puts its options by name. -/
theorem plain_round_trip :
    (∀ chart : LooseChart, ∃ back, load chart.toPlain = .ok back ∧
      ((back == chart) = true ↔ chart.options.KeysSettled)) ∧
    (∀ (source : String) (limit : Int) (chart : Chart), Chart.parse source limit = .ok chart →
      chart.loosen.options.KeysSettled ∧ chart.survivesUnloading = true) ∧
    (∀ (data : Plain) (chart : LooseChart), load data = .ok chart → chart.options.KeysSettled ∧
      ∃ back, load chart.toPlain = .ok back ∧ (back == chart) = true) := by
  refine ⟨fun chart => ?_, fun source limit chart read => ?_, fun data chart loaded => ?_⟩
  · obtain ⟨back, loaded, same⟩ := load_toPlain chart
    refine ⟨_, loaded, fun alike => ?_, fun settled => ?_⟩
    · exact keysSettled_of_beq alike (keysSettled_of_load loaded)
    · rw [same settled]
      exact ChartOf.beq_refl chart
  · have settled := keysSettled_of_parse read
    refine ⟨settled, ?_⟩
    rw [Chart.survivesUnloading, Chart.toPlain, load_toPlain_of_keysSettled settled]
    exact ChartOf.beq_refl _
  · have settled := keysSettled_of_load loaded
    exact ⟨settled, chart, load_toPlain_of_keysSettled settled, ChartOf.beq_refl chart⟩

/-- Two spellings of one key, and a known option set to nothing. -/
def mixedCase : Plain :=
  .record [("options", .record [("Cost", .int 1), ("COST", .null), ("Width", .null)]),
    ("arcs", .list [.list []])]

/-- A chart put together with a key that is not in lower case. -/
def unsettled : LooseChart where
  options := { extra := .ofList [("Cost", .int 1)] }

theorem plain_round_trip_mixedCase :
    (∃ chart, Chart.parse "msc\x7bhscale=2;a->b;\x7d" 0 = .ok chart ∧
      chart.survivesUnloading = true) ∧
    (∃ chart back, load mixedCase = .ok chart ∧ chart.options.extra.keys = ["cost"] ∧
      load chart.toPlain = .ok back ∧ (back == chart) = true) ∧
    ∃ back, load unsettled.toPlain = .ok back ∧ (back == unsettled) = false := by
  obtain ⟨all, parsed, loaded⟩ := plain_round_trip
  refine ⟨?_, ?_, ?_⟩
  · have computed : (Chart.parse "msc\x7bhscale=2;a->b;\x7d" 0).toOption.any
        (fun _ => true) = true := by decide +kernel
    obtain ⟨chart, read, -⟩ := Except.any_toOption_iff.1 computed
    exact ⟨chart, read, (parsed _ _ _ read).2⟩
  · have computed : (load mixedCase).toOption.any
        (fun chart => chart.options.extra.keys == ["cost"]) = true := by decide +kernel
    obtain ⟨chart, given, keys⟩ := Except.any_toOption_iff.1 computed
    obtain ⟨-, back, again, same⟩ := loaded _ _ given
    exact ⟨chart, back, given, beq_iff_eq.1 keys, again, same⟩
  · obtain ⟨back, again, same⟩ := all unsettled
    have differs : ¬unsettled.options.KeysSettled := by decide +kernel
    exact ⟨back, again, by simpa [differs] using same⟩

end LooseChart

end SeqChart
