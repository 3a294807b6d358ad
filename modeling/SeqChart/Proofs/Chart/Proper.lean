import SeqChart.Proofs.Chart.Same
import SeqChart.Proofs.Grammar.Lexis
/-!
Proper charts: those that some text has, but for how deep blocks nest. A chart that was put together
by other means may hold anything where a text belongs, and a text that cannot be written between
quotes, or a comment that is none, does not come back.
-/

namespace SeqChart

open Grammar

/-! ## Texts -/

/-- Read in pairs from the left, no backslash stands before a quote or at the end. -/
inductive EscapeComplete : List Char → Prop
  | nil : EscapeComplete []
  | plain {c : Char} {s : List Char} : c ≠ '\\' → EscapeComplete s → EscapeComplete (c :: s)
  | pair {c : Char} {s : List Char} :
      c ≠ '"' → EscapeComplete s → EscapeComplete ('\\' :: c :: s)

/-- A whole comment; a line comment has no blank at its end. -/
def ProperComment (comment : List Char) : Prop :=
  BlockComment comment ∨
    (LineComment comment ∧ ∀ c ∈ comment.getLast?, Text.isBlank c = false)

def ProperComments (comments : List String) : Prop :=
  ∀ comment ∈ comments, ProperComment comment.toList

def ProperName (name : String) : Prop := name ≠ "" ∧ EscapeComplete name.toList

def ProperAttrs (attrs : Mapping String String) : Prop :=
  ∀ key value, attrs.get? key = some value →
    key ∈ attributeNames ∧ EscapeComplete value.toList

/-! ## Charts -/

structure Options.Proper (options : Options String Bool String) : Prop where
  hscale : ∀ value ∈ options.hscale, Numeral value.toList
  width : ∀ value ∈ options.width, value = "auto" ∨ Numeral value.toList
  arcgradient : ∀ value ∈ options.arcgradient, Numeral value.toList
  watermark : ∀ value ∈ options.watermark, EscapeComplete value.toList
  extra : options.extra = ∅

structure Entity.Proper (entity : Entity String String) : Prop where
  name : ProperName entity.name
  attrs : ProperAttrs entity.attrs
  comments : ProperComments entity.comments

namespace Arc

mutual

/-- The star may be an end of a message; a box or an inline expression does not start from it. -/
def Proper : Arc String String → Prop
  | .message _ source target attrs comments =>
    ProperName source ∧ ProperName target ∧ ProperAttrs attrs ∧ ProperComments comments
  | .box _ source target attrs comments =>
    source ≠ broadcast ∧ ProperName source ∧ ProperName target ∧ ProperAttrs attrs ∧
      ProperComments comments
  | .empty _ attrs comments => ProperAttrs attrs ∧ ProperComments comments
  | .inline _ source target rows attrs comments =>
    source ≠ broadcast ∧ ProperName source ∧ ProperName target ∧ ProperAttrs attrs ∧
      ProperComments comments ∧ ProperRows rows

def ProperRow : List (Arc String String) → Prop
  | [] => True
  | arc :: rest => Proper arc ∧ ProperRow rest

def ProperRows : List (List (Arc String String)) → Prop
  | [] => True
  | row :: rest => row ≠ [] ∧ ProperRow row ∧ ProperRows rest

end

theorem Proper.comments {arc : Arc String String} (proper : arc.Proper) :
    ProperComments arc.comments := by
  cases arc with
  | message => exact proper.2.2.2
  | box => exact proper.2.2.2.2
  | empty => exact proper.2
  | inline => exact proper.2.2.2.2.1

end Arc

structure Chart.Proper (chart : Chart) : Prop where
  options : chart.options.Proper
  entities : ∀ entity ∈ chart.entities, entity.Proper
  rows : Arc.ProperRows chart.rows
  comments : ProperComments chart.comments

/-! ## The order of attributes does not count -/

theorem ProperAttrs.of_beq {attrs attrs' : Mapping String String} (same : (attrs == attrs') = true)
    (proper : ProperAttrs attrs) : ProperAttrs attrs' := by
  intro key value present
  exact proper key value (Mapping.beq_iff.1 same key ▸ present)

namespace Arc

mutual

theorem proper_of_same : ∀ {arc arc' : Arc String String}, same arc arc' = true → Proper arc →
    Proper arc'
  | .message .., _, same, proper => by
    obtain ⟨attrs', rfl, sameAttrs⟩ := same_message_iff.1 same
    obtain ⟨source, target, attrs, comments⟩ := proper
    exact ⟨source, target, attrs.of_beq sameAttrs, comments⟩
  | .box .., _, same, proper => by
    obtain ⟨attrs', rfl, sameAttrs⟩ := same_box_iff.1 same
    obtain ⟨other, source, target, attrs, comments⟩ := proper
    exact ⟨other, source, target, attrs.of_beq sameAttrs, comments⟩
  | .empty .., _, same, proper => by
    obtain ⟨attrs', rfl, sameAttrs⟩ := same_empty_iff.1 same
    exact ⟨proper.1.of_beq sameAttrs, proper.2⟩
  | .inline .., _, same, proper => by
    obtain ⟨rows', attrs', rfl, sameRows, sameAttrs⟩ := same_inline_iff.1 same
    obtain ⟨other, source, target, attrs, comments, rows⟩ := proper
    exact ⟨other, source, target, attrs.of_beq sameAttrs, comments,
      properRows_of_same sameRows rows⟩

theorem properRow_of_same : ∀ {row row' : List (Arc String String)}, sameRow row row' = true →
    ProperRow row → ProperRow row'
  | [], [], _, _ => trivial
  | _ :: _, _ :: _, same, proper => by
    rw [sameRow, Bool.and_eq_true] at same
    exact ⟨proper_of_same same.1 proper.1, properRow_of_same same.2 proper.2⟩

theorem properRows_of_same : ∀ {rows rows' : Rows String String}, sameRows rows rows' = true →
    ProperRows rows → ProperRows rows'
  | [], [], _, _ => trivial
  | row :: _, row' :: _, same, proper => by
    rw [sameRows, Bool.and_eq_true] at same
    obtain ⟨nonempty, properRow, properRest⟩ := proper
    refine ⟨?_, properRow_of_same same.1 properRow, properRows_of_same same.2 properRest⟩
    rintro rfl
    cases row with
    | nil => exact nonempty rfl
    | cons arc rest => cases same.1

end

end Arc

theorem Entity.Proper.of_beq {entity entity' : Entity String String}
    (same : (entity == entity') = true) (proper : entity.Proper) : entity'.Proper := by
  obtain ⟨sameName, sameAttrs, sameComments⟩ := Entity.beq_iff.1 same
  exact ⟨sameName ▸ proper.name, proper.attrs.of_beq sameAttrs, sameComments ▸ proper.comments⟩

theorem Chart.Proper.of_beq {chart chart' : Chart} (same : (chart == chart') = true)
    (proper : chart.Proper) : chart'.Proper := by
  obtain ⟨sameOptions, sameEntities, sameRows, sameComments⟩ := Chart.beq_iff.1 same
  refine ⟨Options.eq_of_beq proper.options.extra sameOptions ▸ proper.options, ?_,
    Arc.properRows_of_same sameRows proper.rows, sameComments ▸ proper.comments⟩
  intro entity' member
  obtain ⟨i, within, rfl⟩ := List.getElem_of_mem member
  have lengths := sameEntities.length_eq
  have same := (List.forall₂_iff_get.1 sameEntities).2 i (lengths ▸ within) within
  exact (proper.entities _ (List.getElem_mem _)).of_beq same

end SeqChart
