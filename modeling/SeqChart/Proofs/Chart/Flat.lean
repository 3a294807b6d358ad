import SeqChart.Proofs.Chart.Flatten
/-!
Flat charts: those without inline expressions, without titles, and with no options but four. Main
statements: flattening makes a chart flat (`flat_flatten`), and does nothing to one that is flat
(`Flat.flatten_beq`).
-/

namespace SeqChart

theorem Mapping.without_beq_of_absent {attrs : Mapping String String} {key : String}
    (absent : attrs.get? key = none) : (attrs.without key == attrs) = true := by
  refine Mapping.beq_iff.2 fun other => ?_
  rw [Mapping.get?_without]
  split
  · rename_i same
    rw [eq_of_beq same, absent]
  · rfl

theorem Mapping.get?_without_self (attrs : Mapping String String) (key : String) :
    (attrs.without key).get? key = none := by
  rw [Mapping.get?_without, if_pos (beq_self_eq_true key)]

theorem forall_of_forall₂ {α β : Type} {R : α → β → Prop} {P : α → Prop} {Q : β → Prop}
    (carries : ∀ {a b}, R a b → Q b → P a) {as : List α} {bs : List β}
    (related : List.Forall₂ R as bs) (holds : ∀ b ∈ bs, Q b) : ∀ a ∈ as, P a := by
  induction related with
  | nil => exact List.forall_mem_nil _
  | cons first _ step =>
    obtain ⟨holdsFirst, holdsRest⟩ := List.forall_mem_cons.1 holds
    exact List.forall_mem_cons.2 ⟨carries first holdsFirst, step holdsRest⟩

/-! ## Rows -/

/-- The items of one row, each with whether it is the last. -/
def markLast {α : Type} : List α → List (α × Bool)
  | [] => []
  | a :: rest => (a, rest.isEmpty) :: markLast rest

section

variable {α : Type}

theorem splitRows_markLast {row : List α} (nonempty : row ≠ []) (items : List (α × Bool)) :
    splitRows (markLast row ++ items) = row :: splitRows items := by
  induction row with
  | nil => exact absurd rfl nonempty
  | cons a rest step =>
    cases rest with
    | nil => rfl
    | cons b more =>
      rw [markLast, List.cons_append, splitRows, step (List.cons_ne_nil b more)]
      rfl

theorem splitRows_cons (item : α × Bool) (rest : List (α × Bool)) :
    ∃ row rows, splitRows (item :: rest) = (item.1 :: row) :: rows := by
  unfold splitRows
  split
  · exact ⟨[], _, rfl⟩
  · split
    · exact ⟨[], [], rfl⟩
    · exact ⟨_, _, rfl⟩

theorem splitRows_forall {P : α → Prop} {items : List (α × Bool)}
    (holds : ∀ item ∈ items, P item.1) :
    ∀ row ∈ splitRows items, row ≠ [] ∧ ∀ a ∈ row, P a := by
  induction items with
  | nil => exact List.forall_mem_nil _
  | cons item rest step =>
    obtain ⟨a, ends⟩ := item
    obtain ⟨first, others⟩ := List.forall_mem_cons.1 holds
    have alone : [a] ≠ [] ∧ ∀ b ∈ [a], P b := ⟨by simp, List.forall_mem_singleton.2 first⟩
    have more := step others
    unfold splitRows
    split
    · exact List.forall_mem_cons.2 ⟨alone, more⟩
    · split
      · exact List.forall_mem_singleton.2 alone
      · rename_i row rows split
        rw [split] at more
        obtain ⟨⟨-, inRow⟩, inRows⟩ := List.forall_mem_cons.1 more
        exact List.forall_mem_cons.2 ⟨⟨by simp, List.forall_mem_cons.2 ⟨first, inRow⟩⟩, inRows⟩

end

/-! ## Arcs -/

namespace Arc

/-- No inline expression, and no title. -/
def Flat : Arc String String → Prop
  | .message _ _ _ attrs _ | .box _ _ _ attrs _ | .empty _ attrs _ => attrs.get? "title" = none
  | .inline .. => False

theorem Flat.of_same {arc arc' : Arc String String} (alike : same arc arc' = true)
    (flat : arc'.Flat) : arc.Flat := by
  have untitled {attrs attrs' : Mapping String String} (alike : (attrs == attrs') = true)
      (absent : attrs'.get? "title" = none) : attrs.get? "title" = none :=
    (Mapping.beq_iff.1 alike "title").trans absent
  cases arc with
  | message =>
    obtain ⟨_, rfl, attrs⟩ := same_message_iff.1 alike
    exact untitled attrs flat
  | box =>
    obtain ⟨_, rfl, attrs⟩ := same_box_iff.1 alike
    exact untitled attrs flat
  | empty =>
    obtain ⟨_, rfl, attrs⟩ := same_empty_iff.1 alike
    exact untitled attrs flat
  | inline =>
    obtain ⟨_, _, rfl, -⟩ := same_inline_iff.1 alike
    exact flat.elim

mutual

/-- Whatever takes the place of an arc is flat. -/
theorem flat_forall : ∀ (pending : List String) (ends : Bool) (arc : Arc String String),
    ∀ item ∈ (flat pending ends arc).1, item.1.Flat
  | _, _, .message .. => List.forall_mem_singleton.2 (Mapping.get?_without_self _ _)
  | _, _, .box .. => List.forall_mem_singleton.2 (Mapping.get?_without_self _ _)
  | _, _, .empty .. => List.forall_mem_singleton.2 (Mapping.get?_without_self _ _)
  | _, _, .inline _ _ _ rows _ _ =>
    List.forall_mem_cons.2 ⟨Mapping.get?_without_self _ _, flatRows_forall [] rows⟩

theorem flatRow_forall : ∀ (pending : List String) (row : List (Arc String String)),
    ∀ item ∈ (flatRow pending row).1, item.1.Flat
  | _, [] => List.forall_mem_nil _
  | pending, arc :: rest =>
    List.forall_mem_append.2 ⟨flat_forall pending rest.isEmpty arc, flatRow_forall _ rest⟩

theorem flatRows_forall : ∀ (pending : List String) (rows : Rows String String),
    ∀ item ∈ (flatRows pending rows).1, item.1.Flat
  | _, [] => List.forall_mem_nil _
  | pending, row :: rest =>
    List.forall_mem_append.2 ⟨flatRow_forall pending row, flatRows_forall _ rest⟩

end

/-- A message that comes first of what takes the place of an arc is that arc, or the line of an
inline expression. -/
theorem message_of_flat {pending : List String} {ends ends' : Bool} {arc : Arc String String}
    {kind : ArcKind} {source target : String} {attrs : Mapping String String}
    {comments : List String} {items : List (Arc String String × Bool)}
    (first :
      (flat pending ends arc).1 = (.message kind source target attrs comments, ends') :: items) :
    kind = .line ∨ ∃ attrs' comments', arc = .message kind source target attrs' comments' := by
  cases arc with
  | message =>
    cases first
    exact .inr ⟨_, _, rfl⟩
  | box => cases first
  | empty => cases first
  | inline =>
    cases first
    exact .inl rfl

/-- A flat arc stays where it is, and leaves no comments. -/
theorem Flat.flat_eq {arc : Arc String String} (flat : arc.Flat) (ends : Bool) :
    ∃ arc', Arc.flat [] ends arc = ([(arc', ends)], []) ∧ same arc' arc = true := by
  cases arc with
  | message =>
    exact ⟨_, rfl, same_message_iff.2 ⟨_, rfl, Mapping.without_beq_of_absent flat⟩⟩
  | box => exact ⟨_, rfl, same_box_iff.2 ⟨_, rfl, Mapping.without_beq_of_absent flat⟩⟩
  | empty => exact ⟨_, rfl, same_empty_iff.2 ⟨_, rfl, Mapping.without_beq_of_absent flat⟩⟩
  | inline => exact flat.elim

theorem flatRow_of_flat {row : List (Arc String String)} (flat : ∀ arc ∈ row, arc.Flat) :
    ∃ row', flatRow [] row = (markLast row', []) ∧
      List.Forall₂ (fun a b => same a b = true) row' row := by
  induction row with
  | nil => exact ⟨[], rfl, .nil⟩
  | cons arc rest step =>
    obtain ⟨first, others⟩ := List.forall_mem_cons.1 flat
    obtain ⟨rest', kept, alikeRest⟩ := step others
    obtain ⟨arc', stays, alike⟩ := first.flat_eq rest.isEmpty
    have last : rest'.isEmpty = rest.isEmpty := by cases alikeRest <;> rfl
    refine ⟨arc' :: rest', ?_, .cons alike alikeRest⟩
    simp [flatRow, stays, kept, markLast, last]

theorem flatRows_of_flat {rows : Rows String String}
    (flat : ∀ row ∈ rows, row ≠ [] ∧ ∀ arc ∈ row, arc.Flat) :
    ∃ items, flatRows [] rows = (items, []) ∧ sameRows (splitRows items) rows = true := by
  induction rows with
  | nil => exact ⟨[], rfl, rfl⟩
  | cons row rest step =>
    obtain ⟨⟨nonempty, first⟩, others⟩ := List.forall_mem_cons.1 flat
    obtain ⟨items, kept, alikeRest⟩ := step others
    obtain ⟨row', stays, alike⟩ := flatRow_of_flat first
    have nonempty' : row' ≠ [] := by
      rintro rfl
      cases alike
      exact nonempty rfl
    refine ⟨markLast row' ++ items, by simp [flatRows, stays, kept], ?_⟩
    rw [splitRows_markLast nonempty', sameRows, Bool.and_eq_true]
    exact ⟨sameRow_iff.2 alike, alikeRest⟩

end Arc

/-! ## Charts -/

namespace Chart

structure Flat (chart : Chart) : Prop where
  options : chart.flatten.options = chart.options
  entities : ∀ entity ∈ chart.entities, entity.attrs.get? "title" = none
  rows : ∀ row ∈ chart.rows, row ≠ [] ∧ ∀ arc ∈ row, arc.Flat

theorem flat_flatten (chart : Chart) : chart.flatten.Flat where
  options := by
    have once : (chart.options.width.filter (· != "auto")).filter (· != "auto") =
        chart.options.width.filter (· != "auto") := by
      simp [Option.filter_filter]
    show ({ chart.flatten.options with
      width := (chart.options.width.filter (· != "auto")).filter (· != "auto") } :
        Options String Bool String) = chart.flatten.options
    rw [once]
    rfl
  entities := by
    intro entity member
    obtain ⟨entity, -, rfl⟩ := List.mem_map.1 member
    exact Mapping.get?_without_self _ _
  rows := splitRows_forall (Arc.flatRows_forall [] chart.rows)

theorem Flat.of_beq {chart chart' : Chart} (known : chart.options.extra = ∅)
    (same : (chart == chart') = true) (flat : chart'.Flat) : chart.Flat := by
  obtain ⟨options, entities, rows, -⟩ := Chart.beq_iff.1 same
  have options := Options.eq_of_beq known options
  refine ⟨by rw [options, ← flat.options, flatten, flatten, options], ?_, ?_⟩
  · refine forall_of_forall₂ (fun alike absent => ?_) entities flat.entities
    exact (Mapping.beq_iff.1 (Entity.beq_iff.1 alike).2.1 "title").trans absent
  · refine forall_of_forall₂ (fun alike whole => ?_) (Arc.sameRows_iff.1 rows) flat.rows
    obtain ⟨nonempty, arcs⟩ := whole
    refine ⟨?_, forall_of_forall₂ (P := Arc.Flat) (Q := Arc.Flat)
      Arc.Flat.of_same alike arcs⟩
    rintro rfl
    cases alike
    exact nonempty rfl

/-- Flattening does nothing to a flat chart. -/
theorem Flat.flatten_beq {chart : Chart} (flat : chart.Flat) : (chart.flatten == chart) = true := by
  obtain ⟨items, kept, rows⟩ := Arc.flatRows_of_flat flat.rows
  refine Chart.beq_iff.2 ⟨?_, ?_, ?_, rfl⟩
  · rw [flat.options]
    exact Options.beq_refl _
  · refine List.forall₂_map_left_iff.2 (List.forall₂_same.2 fun entity member => ?_)
    exact Entity.beq_iff.2
      ⟨rfl, Mapping.without_beq_of_absent (flat.entities entity member), rfl⟩
  · rw [flatten, kept]
    exact rows

end Chart

end SeqChart
