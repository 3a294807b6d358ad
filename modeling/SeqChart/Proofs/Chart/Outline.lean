import SeqChart.Proofs.Chart.Check
import SeqChart.Proofs.Chart.Proper
/-!
Charts but for the values of their attributes. The outline of a chart has blank values under all
keys, and two charts have the same outline when they differ in such values only. Main statement,
`proper_iff`: a chart is proper when its outline is and the values can stand between quotes.
-/

namespace SeqChart

namespace Mapping

/-- The values under all keys. -/
def values {κ ν : Type} [BEq κ] (m : Mapping κ ν) : List ν := m.entries.map (·.2)

/-- The same keys with nothing under them. -/
def blanked {κ : Type} [BEq κ] (m : Mapping κ String) : Mapping κ String := m.mapValues fun _ => ""

theorem get?_mapValues {κ ν μ : Type} [BEq κ] (m : Mapping κ ν) (f : ν → μ) (key : κ) :
    (m.mapValues f).get? key = (m.get? key).map f := by
  simp [get?, mapValues, List.find?_map, Function.comp_def]

theorem blanked_beq {a b : Mapping String String} (same : (a == b) = true) :
    (a.blanked == b.blanked) = true := by
  rw [beq_iff] at same ⊢
  intro key
  rw [blanked, blanked, get?_mapValues, get?_mapValues, same key]

theorem mem_values_iff {m : Mapping String String} {value : String} :
    value ∈ m.values ↔ ∃ key, m.get? key = some value := by
  simp [values, get?_eq_some_iff]

end Mapping

theorem properAttrs_iff {attrs : Mapping String String} :
    ProperAttrs attrs ↔
      ProperAttrs attrs.blanked ∧ ∀ value ∈ attrs.values, EscapeComplete value.toList := by
  simp only [ProperAttrs, Mapping.blanked, Mapping.get?_mapValues, Mapping.mem_values_iff,
    Option.map_eq_some_iff]
  constructor
  · intro proper
    refine ⟨?_, fun value ⟨key, found⟩ => (proper key value found).2⟩
    rintro key _ ⟨value, found, rfl⟩
    exact ⟨(proper key value found).1, .nil⟩
  · rintro ⟨known, complete⟩ key value found
    exact ⟨(known key "" ⟨value, found, rfl⟩).1, complete value ⟨key, found⟩⟩

/-! ## Outlines and values -/

def Entity.outline (entity : Entity String String) : Entity String String :=
  { entity with attrs := entity.attrs.blanked }

namespace Arc

mutual

def outline : Arc String String → Arc String String
  | .message kind source target attrs comments =>
    .message kind source target attrs.blanked comments
  | .box kind source target attrs comments => .box kind source target attrs.blanked comments
  | .empty kind attrs comments => .empty kind attrs.blanked comments
  | .inline kind source target rows attrs comments =>
    .inline kind source target (outlineRows rows) attrs.blanked comments

def outlineRow : List (Arc String String) → List (Arc String String)
  | [] => []
  | arc :: rest => arc.outline :: outlineRow rest

def outlineRows : Rows String String → Rows String String
  | [] => []
  | row :: rest => outlineRow row :: outlineRows rest

end

mutual

/-- The values of the attributes of an arc and of those inside it. -/
def values : Arc String String → List String
  | .message _ _ _ attrs _ | .box _ _ _ attrs _ | .empty _ attrs _ => attrs.values
  | .inline _ _ _ rows attrs _ => attrs.values ++ valuesOfRows rows

def valuesOfRow : List (Arc String String) → List String
  | [] => []
  | arc :: rest => arc.values ++ valuesOfRow rest

def valuesOfRows : Rows String String → List String
  | [] => []
  | row :: rest => valuesOfRow row ++ valuesOfRows rest

end

end Arc

namespace Chart

def outline (chart : Chart) : Chart :=
  { chart with
    entities := chart.entities.map Entity.outline
    rows := Arc.outlineRows chart.rows }

/-- The values of all attributes of entities and arcs. -/
def attributeValues (chart : Chart) : List String :=
  chart.entities.flatMap (·.attrs.values) ++ Arc.valuesOfRows chart.rows

/-- The charts differ in the values of their attributes at most: options, names, comments, rows and
the keys of attributes are the same, and so are the classes, kinds and ends of arcs. -/
def SameOutline (a b : Chart) : Prop := (a.outline == b.outline) = true

end Chart

/-! ## What outlines keep -/

namespace Arc

theorem outlineRow_eq_nil_iff {row : List (Arc String String)} :
    outlineRow row = [] ↔ row = [] := by
  cases row <;> simp [outlineRow]

mutual

theorem proper_iff : ∀ {arc : Arc String String},
    arc.Proper ↔ arc.outline.Proper ∧ ∀ value ∈ arc.values, EscapeComplete value.toList
  | .message .. => by
    rw [outline, Proper, Proper, values, properAttrs_iff]
    tauto
  | .box .. => by
    rw [outline, Proper, Proper, values, properAttrs_iff]
    tauto
  | .empty .. => by
    rw [outline, Proper, Proper, values, properAttrs_iff]
    tauto
  | .inline .. => by
    rw [outline, Proper, Proper, values, properAttrs_iff, properRows_iff, List.forall_mem_append]
    tauto

theorem properRow_iff : ∀ {row : List (Arc String String)},
    ProperRow row ↔ ProperRow (outlineRow row) ∧ ∀ value ∈ valuesOfRow row,
      EscapeComplete value.toList
  | [] => by simp [outlineRow, ProperRow, valuesOfRow]
  | _ :: _ => by
    rw [outlineRow, ProperRow, ProperRow, valuesOfRow, proper_iff, properRow_iff,
      List.forall_mem_append]
    tauto

theorem properRows_iff : ∀ {rows : Rows String String},
    ProperRows rows ↔ ProperRows (outlineRows rows) ∧ ∀ value ∈ valuesOfRows rows,
      EscapeComplete value.toList
  | [] => by simp [outlineRows, ProperRows, valuesOfRows]
  | row :: _ => by
    rw [outlineRows, ProperRows, ProperRows, valuesOfRows, properRow_iff, properRows_iff,
      List.forall_mem_append, ne_eq, ne_eq, outlineRow_eq_nil_iff]
    tauto

end

mutual

theorem nesting_outline : ∀ {arc : Arc String String}, arc.outline.nesting = arc.nesting
  | .message .. | .box .. | .empty .. => rfl
  | .inline .. => by rw [outline, nesting, nesting, nestingOfRows_outline]

theorem nestingOfRow_outline : ∀ {row : List (Arc String String)},
    nestingOfRow (outlineRow row) = nestingOfRow row
  | [] => rfl
  | _ :: _ => by rw [outlineRow, nestingOfRow, nestingOfRow, nesting_outline, nestingOfRow_outline]

theorem nestingOfRows_outline : ∀ {rows : Rows String String},
    nestingOfRows (outlineRows rows) = nestingOfRows rows
  | [] => rfl
  | _ :: _ => by
    rw [outlineRows, nestingOfRows, nestingOfRows, nestingOfRow_outline, nestingOfRows_outline]

end

mutual

theorem filled_outline : ∀ {arc : Arc String String}, arc.outline.Filled ↔ arc.Filled
  | .message .. | .box .. | .empty .. => Iff.rfl
  | .inline .. => by rw [outline, Filled, Filled, filledRows_outline]

theorem filledRow_outline : ∀ {row : List (Arc String String)},
    FilledRow (outlineRow row) ↔ FilledRow row
  | [] => Iff.rfl
  | _ :: _ => by rw [outlineRow, FilledRow, FilledRow, filled_outline, filledRow_outline]

theorem filledRows_outline : ∀ {rows : Rows String String},
    FilledRows (outlineRows rows) ↔ FilledRows rows
  | [] => Iff.rfl
  | row :: _ => by
    rw [outlineRows, FilledRows, FilledRows, filledRow_outline, filledRows_outline, ne_eq, ne_eq,
      outlineRow_eq_nil_iff]

end

mutual

theorem same_outline : ∀ {arc arc' : Arc String String}, same arc arc' = true →
    same arc.outline arc'.outline = true
  | .message .., _, same => by
    obtain ⟨attrs', rfl, sameAttrs⟩ := same_message_iff.1 same
    exact same_message_iff.2 ⟨_, rfl, Mapping.blanked_beq sameAttrs⟩
  | .box .., _, same => by
    obtain ⟨attrs', rfl, sameAttrs⟩ := same_box_iff.1 same
    exact same_box_iff.2 ⟨_, rfl, Mapping.blanked_beq sameAttrs⟩
  | .empty .., _, same => by
    obtain ⟨attrs', rfl, sameAttrs⟩ := same_empty_iff.1 same
    exact same_empty_iff.2 ⟨_, rfl, Mapping.blanked_beq sameAttrs⟩
  | .inline .., _, same => by
    obtain ⟨rows', attrs', rfl, sameRows, sameAttrs⟩ := same_inline_iff.1 same
    exact same_inline_iff.2 ⟨_, _, rfl, sameRows_outline sameRows, Mapping.blanked_beq sameAttrs⟩

theorem sameRow_outline : ∀ {row row' : List (Arc String String)}, sameRow row row' = true →
    sameRow (outlineRow row) (outlineRow row') = true
  | [], [], _ => rfl
  | _ :: _, _ :: _, same => by
    rw [sameRow, Bool.and_eq_true] at same
    rw [outlineRow, outlineRow, sameRow, same_outline same.1, sameRow_outline same.2]
    rfl

theorem sameRows_outline : ∀ {rows rows' : Rows String String}, sameRows rows rows' = true →
    sameRows (outlineRows rows) (outlineRows rows') = true
  | [], [], _ => rfl
  | _ :: _, _ :: _, same => by
    rw [sameRows, Bool.and_eq_true] at same
    rw [outlineRows, outlineRows, sameRows, sameRow_outline same.1, sameRows_outline same.2]
    rfl

end

end Arc

namespace Chart

theorem proper_iff {chart : Chart} : chart.Proper ↔
    chart.outline.Proper ∧ ∀ value ∈ chart.attributeValues, EscapeComplete value.toList := by
  have entity (e : Entity String String) : e.Proper ↔
      e.outline.Proper ∧ ∀ value ∈ e.attrs.values, EscapeComplete value.toList := by
    constructor
    · rintro ⟨name, attrs, comments⟩
      obtain ⟨known, complete⟩ := properAttrs_iff.1 attrs
      exact ⟨⟨name, known, comments⟩, complete⟩
    · rintro ⟨⟨name, known, comments⟩, complete⟩
      exact ⟨name, properAttrs_iff.2 ⟨known, complete⟩, comments⟩
  constructor
  · rintro ⟨options, entities, rows, comments⟩
    obtain ⟨properRows, completeRows⟩ := Arc.properRows_iff.1 rows
    refine ⟨⟨options, ?_, properRows, comments⟩, List.forall_mem_append.2 ⟨?_, completeRows⟩⟩
    · rintro _ member
      obtain ⟨e, inside, rfl⟩ := List.mem_map.1 member
      exact ((entity e).1 (entities e inside)).1
    · intro value member
      obtain ⟨e, member, stands⟩ := List.mem_flatMap.1 member
      exact ((entity e).1 (entities e member)).2 value stands
  · rintro ⟨⟨options, entities, rows, comments⟩, complete⟩
    obtain ⟨completeEntities, completeRows⟩ := List.forall_mem_append.1 complete
    refine ⟨options, fun e member => (entity e).2 ⟨?_, fun value stands => ?_⟩,
      Arc.properRows_iff.2 ⟨rows, completeRows⟩, comments⟩
    · exact entities _ (List.mem_map_of_mem member)
    · exact completeEntities value (List.mem_flatMap.2 ⟨e, member, stands⟩)

theorem filled_outline {chart : Chart} : chart.outline.Filled ↔ chart.Filled := by
  constructor
  · rintro ⟨entities, rows⟩
    exact ⟨fun e member => entities e.outline (List.mem_map_of_mem member),
      Arc.filledRows_outline.1 rows⟩
  · rintro ⟨entities, rows⟩
    refine ⟨fun e member => ?_, Arc.filledRows_outline.2 rows⟩
    obtain ⟨e', inside, rfl⟩ := List.mem_map.1 member
    exact entities e' inside

theorem nesting_of_sameOutline {a b : Chart} (same : a.SameOutline b) : a.nesting = b.nesting := by
  have outlines : Arc.nestingOfRows (Arc.outlineRows a.rows) =
      Arc.nestingOfRows (Arc.outlineRows b.rows) := Chart.nesting_of_beq same
  rwa [Arc.nestingOfRows_outline, Arc.nestingOfRows_outline] at outlines

theorem sameOutline_of_beq {a b : Chart} (same : (a == b) = true) : a.SameOutline b := by
  obtain ⟨options, entities, rows, comments⟩ := Chart.beq_iff.1 same
  refine Chart.beq_iff.2 ⟨options, ?_, Arc.sameRows_outline rows, comments⟩
  refine List.forall₂_map_left_iff.2
    (List.forall₂_map_right_iff.2 (entities.imp fun e e' same => ?_))
  obtain ⟨name, attrs, comments⟩ := Entity.beq_iff.1 same
  exact Entity.beq_iff.2 ⟨name, Mapping.blanked_beq attrs, comments⟩

end Chart

end SeqChart
