import Mathlib.Data.List.Forall2
import SeqChart.Proofs.Data.Mapping
import SeqChart.Chart.Basic
/-!
Charts that are equal but for the order of attributes. Main statement, `Chart.beq_iff`; the lemmas
named `same_..._iff` say which arcs are the same as a given one.
-/

namespace SeqChart

theorem Options.beq_eq {τ β ξ : Type} [BEq τ] [BEq β] [BEq ξ] (a b : Options τ β ξ) :
    (a == b) = (a.hscale == b.hscale && (a.width == b.width && (a.arcgradient == b.arcgradient &&
      (a.wordwraparcs == b.wordwraparcs && (a.wordwrapentities == b.wordwrapentities &&
        (a.wordwrapboxes == b.wordwrapboxes && (a.watermark == b.watermark &&
          a.extra == b.extra))))))) := rfl

theorem Entity.beq_eq {κ τ : Type} [BEq κ] [BEq τ] (a b : Entity κ τ) :
    (a == b) = (a.name == b.name && a.attrs == b.attrs && a.comments == b.comments) := rfl

theorem ChartOf.beq_eq {κ τ ω : Type} [BEq κ] [BEq τ] [BEq ω] (a b : ChartOf κ τ ω) :
    (a == b) = (a.options == b.options && a.entities == b.entities && Arc.sameRows a.rows b.rows &&
      a.comments == b.comments) := rfl

section Reflexive

variable {κ τ β ξ ω : Type} [BEq κ] [BEq τ]

mutual

theorem Arc.same_refl [ReflBEq κ] [ReflBEq τ] : ∀ arc : Arc κ τ, arc.same arc = true
  | .message .. | .box .. | .empty .. => by simp [same]
  | .inline _ _ _ rows _ _ => by simp [same, sameRows_refl rows]

theorem Arc.sameRow_refl [ReflBEq κ] [ReflBEq τ] : ∀ row : List (Arc κ τ), sameRow row row = true
  | [] => rfl
  | arc :: rest => by simp [sameRow, same_refl arc, sameRow_refl rest]

theorem Arc.sameRows_refl [ReflBEq κ] [ReflBEq τ] : ∀ rows : Rows κ τ, sameRows rows rows = true
  | [] => rfl
  | row :: rest => by simp [sameRows, sameRow_refl row, sameRows_refl rest]

end

variable [ReflBEq τ]

theorem Options.beq_refl [BEq β] [ReflBEq β] [BEq ξ] [ReflBEq ξ] (a : Options τ β ξ) :
    (a == a) = true := by
  rw [Options.beq_eq]
  simp only [BEq.rfl, Bool.and_self]

instance [BEq β] [ReflBEq β] [BEq ξ] [ReflBEq ξ] : ReflBEq (Options τ β ξ) :=
  ⟨Options.beq_refl _⟩

variable [ReflBEq κ]

instance : ReflBEq (Entity κ τ) where
  rfl {entity} := by
    rw [Entity.beq_eq]
    simp only [BEq.rfl, Bool.and_self]

theorem ChartOf.beq_refl [BEq ω] [ReflBEq ω] (chart : ChartOf κ τ ω) : (chart == chart) = true := by
  rw [ChartOf.beq_eq]
  simp only [BEq.rfl, Arc.sameRows_refl, Bool.and_self]

end Reflexive

namespace Arc

theorem sameRow_iff {row row' : List (Arc String String)} :
    sameRow row row' = true ↔ List.Forall₂ (fun a b => same a b = true) row row' := by
  induction row generalizing row' with
  | nil => cases row' <;> simp [sameRow]
  | cons a rest step =>
    cases row' with
    | nil => simp [sameRow]
    | cons b rest' => simp [sameRow, step]

theorem sameRows_iff {rows rows' : Rows String String} :
    sameRows rows rows' = true ↔
      List.Forall₂ (List.Forall₂ fun a b => same a b = true) rows rows' := by
  induction rows generalizing rows' with
  | nil => cases rows' <;> simp [sameRows]
  | cons row rest step =>
    cases rows' with
    | nil => simp [sameRows]
    | cons row' rest' => simp [sameRows, step, sameRow_iff]

variable {source target : String} {attrs : Mapping String String} {comments : List String}
  {other : Arc String String}

theorem same_message_iff {kind : ArcKind} :
    same (.message kind source target attrs comments) other = true ↔
      ∃ attrs', other = .message kind source target attrs' comments ∧ (attrs == attrs') = true := by
  cases other with
  | message => simp [same]; grind
  | _ => simp [same]

theorem same_box_iff {kind : BoxKind} :
    same (.box kind source target attrs comments) other = true ↔
      ∃ attrs', other = .box kind source target attrs' comments ∧ (attrs == attrs') = true := by
  cases other with
  | box => simp [same]; grind
  | _ => simp [same]

theorem same_empty_iff {kind : EmptyKind} :
    same (.empty kind attrs comments) other = true ↔
      ∃ attrs', other = .empty kind attrs' comments ∧ (attrs == attrs') = true := by
  cases other with
  | empty => simp [same]; grind
  | _ => simp [same]

theorem same_inline_iff {kind : InlineKind} {rows : Rows String String} :
    same (.inline kind source target rows attrs comments) other = true ↔
      ∃ rows' attrs', other = .inline kind source target rows' attrs' comments ∧
        sameRows rows rows' = true ∧ (attrs == attrs') = true := by
  cases other with
  | inline => simp [same]; grind
  | _ => simp [same]

theorem comments_of_same {a b : Arc String String} (alike : same a b = true) :
    a.comments = b.comments := by
  cases a with
  | message =>
    obtain ⟨_, rfl, -⟩ := same_message_iff.1 alike
    rfl
  | box =>
    obtain ⟨_, rfl, -⟩ := same_box_iff.1 alike
    rfl
  | empty =>
    obtain ⟨_, rfl, -⟩ := same_empty_iff.1 alike
    rfl
  | inline =>
    obtain ⟨_, _, rfl, -⟩ := same_inline_iff.1 alike
    rfl

theorem isInline_of_same {a b : Arc String String} (alike : same a b = true) :
    a.isInline = b.isInline := by
  cases a <;> cases b <;> first | rfl | simp [same] at alike

mutual

theorem same_symm : ∀ {a b : Arc String String}, same a b = true → same b a = true
  | .message .., _, alike => by
    obtain ⟨_, rfl, attrs⟩ := same_message_iff.1 alike
    exact same_message_iff.2 ⟨_, rfl, Mapping.beq_symm attrs⟩
  | .box .., _, alike => by
    obtain ⟨_, rfl, attrs⟩ := same_box_iff.1 alike
    exact same_box_iff.2 ⟨_, rfl, Mapping.beq_symm attrs⟩
  | .empty .., _, alike => by
    obtain ⟨_, rfl, attrs⟩ := same_empty_iff.1 alike
    exact same_empty_iff.2 ⟨_, rfl, Mapping.beq_symm attrs⟩
  | .inline .., _, alike => by
    obtain ⟨_, _, rfl, rows, attrs⟩ := same_inline_iff.1 alike
    exact same_inline_iff.2 ⟨_, _, rfl, sameRows_symm rows, Mapping.beq_symm attrs⟩

theorem sameRow_symm : ∀ {a b : List (Arc String String)}, sameRow a b = true →
    sameRow b a = true
  | [], [], _ => rfl
  | _ :: _, _ :: _, alike => by
    rw [sameRow, Bool.and_eq_true] at alike ⊢
    exact ⟨same_symm alike.1, sameRow_symm alike.2⟩

theorem sameRows_symm : ∀ {a b : Rows String String}, sameRows a b = true →
    sameRows b a = true
  | [], [], _ => rfl
  | _ :: _, _ :: _, alike => by
    rw [sameRows, Bool.and_eq_true] at alike ⊢
    exact ⟨sameRow_symm alike.1, sameRows_symm alike.2⟩

end

mutual

theorem same_trans : ∀ {a b c : Arc String String}, same a b = true → same b c = true →
    same a c = true
  | .message .., _, _, first, second => by
    obtain ⟨_, rfl, attrs⟩ := same_message_iff.1 first
    obtain ⟨_, rfl, attrs'⟩ := same_message_iff.1 second
    exact same_message_iff.2 ⟨_, rfl, Mapping.beq_trans attrs attrs'⟩
  | .box .., _, _, first, second => by
    obtain ⟨_, rfl, attrs⟩ := same_box_iff.1 first
    obtain ⟨_, rfl, attrs'⟩ := same_box_iff.1 second
    exact same_box_iff.2 ⟨_, rfl, Mapping.beq_trans attrs attrs'⟩
  | .empty .., _, _, first, second => by
    obtain ⟨_, rfl, attrs⟩ := same_empty_iff.1 first
    obtain ⟨_, rfl, attrs'⟩ := same_empty_iff.1 second
    exact same_empty_iff.2 ⟨_, rfl, Mapping.beq_trans attrs attrs'⟩
  | .inline .., _, _, first, second => by
    obtain ⟨_, _, rfl, rows, attrs⟩ := same_inline_iff.1 first
    obtain ⟨_, _, rfl, rows', attrs'⟩ := same_inline_iff.1 second
    exact same_inline_iff.2 ⟨_, _, rfl, sameRows_trans rows rows',
      Mapping.beq_trans attrs attrs'⟩

theorem sameRow_trans : ∀ {a b c : List (Arc String String)}, sameRow a b = true →
    sameRow b c = true → sameRow a c = true
  | [], [], [], _, _ => rfl
  | _ :: _, _ :: _, _ :: _, first, second => by
    rw [sameRow, Bool.and_eq_true] at first second ⊢
    exact ⟨same_trans first.1 second.1, sameRow_trans first.2 second.2⟩

theorem sameRows_trans : ∀ {a b c : Rows String String}, sameRows a b = true →
    sameRows b c = true → sameRows a c = true
  | [], [], [], _, _ => rfl
  | _ :: _, _ :: _, _ :: _, first, second => by
    rw [sameRows, Bool.and_eq_true] at first second ⊢
    exact ⟨sameRow_trans first.1 second.1, sameRows_trans first.2 second.2⟩

end

mutual

theorem nesting_of_same : ∀ {arc arc' : Arc String String}, same arc arc' = true →
    arc.nesting = arc'.nesting
  | .message .., _, same => by
    obtain ⟨_, rfl, -⟩ := same_message_iff.1 same
    rfl
  | .box .., _, same => by
    obtain ⟨_, rfl, -⟩ := same_box_iff.1 same
    rfl
  | .empty .., _, same => by
    obtain ⟨_, rfl, -⟩ := same_empty_iff.1 same
    rfl
  | .inline .., _, same => by
    obtain ⟨_, _, rfl, sameRows, -⟩ := same_inline_iff.1 same
    rw [nesting, nesting, nestingOfRows_of_same sameRows]

theorem nestingOfRow_of_same : ∀ {row row' : List (Arc String String)}, sameRow row row' = true →
    nestingOfRow row = nestingOfRow row'
  | [], [], _ => rfl
  | _ :: _, _ :: _, same => by
    rw [sameRow, Bool.and_eq_true] at same
    rw [nestingOfRow, nestingOfRow, nesting_of_same same.1, nestingOfRow_of_same same.2]

theorem nestingOfRows_of_same : ∀ {rows rows' : Rows String String}, sameRows rows rows' = true →
    nestingOfRows rows = nestingOfRows rows'
  | [], [], _ => rfl
  | _ :: _, _ :: _, same => by
    rw [sameRows, Bool.and_eq_true] at same
    rw [nestingOfRows, nestingOfRows, nestingOfRow_of_same same.1, nestingOfRows_of_same same.2]

end

variable {test : String → String → Bool}

mutual

theorem messageEnds_of_same : ∀ {arc arc' : Arc String String}, same arc arc' = true →
    arc.messageEnds test = arc'.messageEnds test
  | .message .., _, same => by
    obtain ⟨_, rfl, -⟩ := same_message_iff.1 same
    rfl
  | .box .., _, same => by
    obtain ⟨_, rfl, -⟩ := same_box_iff.1 same
    rfl
  | .empty .., _, same => by
    obtain ⟨_, rfl, -⟩ := same_empty_iff.1 same
    rfl
  | .inline .., _, same => by
    obtain ⟨_, _, rfl, sameRows, -⟩ := same_inline_iff.1 same
    rw [messageEnds, messageEnds, messageEndsOfRows_of_same sameRows]

theorem messageEndsOfRow_of_same : ∀ {row row' : List (Arc String String)},
    sameRow row row' = true → messageEndsOfRow test row = messageEndsOfRow test row'
  | [], [], _ => rfl
  | _ :: _, _ :: _, same => by
    rw [sameRow, Bool.and_eq_true] at same
    rw [messageEndsOfRow, messageEndsOfRow, messageEnds_of_same same.1,
      messageEndsOfRow_of_same same.2]

theorem messageEndsOfRows_of_same : ∀ {rows rows' : Rows String String},
    sameRows rows rows' = true → messageEndsOfRows test rows = messageEndsOfRows test rows'
  | [], [], _ => rfl
  | _ :: _, _ :: _, same => by
    rw [sameRows, Bool.and_eq_true] at same
    rw [messageEndsOfRows, messageEndsOfRows, messageEndsOfRow_of_same same.1,
      messageEndsOfRows_of_same same.2]

end

end Arc

theorem Options.eq_of_beq {a b : Options String Bool String} (known : a.extra = ∅)
    (same : (a == b) = true) : a = b := by
  obtain ⟨hscale, width, arcgradient, arcs, entities, boxes, watermark, extra⟩ := a
  obtain ⟨hscale', width', arcgradient', arcs', entities', boxes', watermark', extra'⟩ := b
  rw [Options.beq_eq] at same
  simp only [Bool.and_eq_true, beq_iff_eq] at same
  obtain ⟨rfl, rfl, rfl, rfl, rfl, rfl, rfl, sameExtra⟩ := same
  obtain rfl : extra = ∅ := known
  rw [Mapping.eq_empty_of_beq sameExtra]

theorem Entity.beq_iff {a b : Entity String String} :
    (a == b) = true ↔ a.name = b.name ∧ (a.attrs == b.attrs) = true ∧ a.comments = b.comments := by
  rw [Entity.beq_eq]
  simp [and_assoc]

theorem entities_beq_iff {as bs : List (Entity String String)} :
    (as == bs) = true ↔ List.Forall₂ (fun a b => (a == b) = true) as bs := by
  induction as generalizing bs with
  | nil => cases bs <;> simp
  | cons a rest step =>
    cases bs with
    | nil => simp
    | cons b rest' => simp [step]

theorem Entity.beq_symm {a b : Entity String String} (same : (a == b) = true) :
    (b == a) = true := by
  obtain ⟨name, attrs, comments⟩ := Entity.beq_iff.1 same
  exact Entity.beq_iff.2 ⟨name.symm, Mapping.beq_symm attrs, comments.symm⟩

theorem entities_beq_trans {as bs cs : List (Entity String String)}
    (first : List.Forall₂ (fun a b => (a == b) = true) as bs)
    (second : List.Forall₂ (fun b c => (b == c) = true) bs cs) :
    List.Forall₂ (fun a c => (a == c) = true) as cs := by
  induction first generalizing cs with
  | nil => exact second
  | cons same _ step =>
    cases second with
    | cons same' rest =>
      obtain ⟨name, attrs, comments⟩ := Entity.beq_iff.1 same
      obtain ⟨name', attrs', comments'⟩ := Entity.beq_iff.1 same'
      exact .cons (Entity.beq_iff.2 ⟨name.trans name', Mapping.beq_trans attrs attrs',
        comments.trans comments'⟩) (step rest)

theorem Chart.beq_iff {a b : Chart} : (a == b) = true ↔ (a.options == b.options) = true ∧
    List.Forall₂ (fun e e' => (e == e') = true) a.entities b.entities ∧
    Arc.sameRows a.rows b.rows = true ∧ a.comments = b.comments := by
  rw [ChartOf.beq_eq]
  simp [and_assoc, entities_beq_iff]

theorem Chart.beq_symm {a b : Chart} (known : a.options.extra = ∅) (same : (a == b) = true) :
    (b == a) = true := by
  obtain ⟨options, entities, rows, comments⟩ := Chart.beq_iff.1 same
  refine Chart.beq_iff.2 ⟨?_, entities.flip.imp fun _ _ => Entity.beq_symm,
    Arc.sameRows_symm rows, comments.symm⟩
  rw [Options.eq_of_beq known options]
  exact Options.beq_refl _

/-- Without options that no dialect knows, equality goes on from chart to chart. -/
theorem Chart.beq_trans {a b c : Chart} (known : a.options.extra = ∅) (first : (a == b) = true)
    (second : (b == c) = true) : (a == c) = true := by
  obtain ⟨options, entities, rows, comments⟩ := Chart.beq_iff.1 first
  obtain ⟨options', entities', rows', comments'⟩ := Chart.beq_iff.1 second
  exact Chart.beq_iff.2 ⟨Options.eq_of_beq known options ▸ options',
    entities_beq_trans entities entities', Arc.sameRows_trans rows rows',
    comments.trans comments'⟩

theorem Chart.nesting_of_beq {a b : Chart} (same : (a == b) = true) : a.nesting = b.nesting :=
  Arc.nestingOfRows_of_same (Chart.beq_iff.1 same).2.2.1

/-- The same messages are broadcasts in charts that are equal. -/
theorem Chart.broadcasts_of_beq {a b : Chart} (same : (a == b) = true) (star : String) :
    a.broadcasts star = b.broadcasts star :=
  Arc.messageEndsOfRows_of_same (Chart.beq_iff.1 same).2.2.1

end SeqChart
