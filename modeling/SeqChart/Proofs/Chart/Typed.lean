import SeqChart.Proofs.Chart.Check
/-!
Trees that are charts. `Tree.IsChart` says what each place of a tree must hold, without a look at
how trees are checked. Main statement, `exists_check_eq_ok_iff`: the check passes exactly these
trees.
-/

namespace SeqChart.Tree

/-! ## What may stand where -/

def IsTexts (tree : Tree) : Prop := ∃ texts : List String, tree = .list (texts.map .text)

def IsAttrs (tree : Tree) : Prop :=
  ∃ pairs : List (String × String),
    tree = .mapping (pairs.map fun pair => (.text pair.1, .text pair.2))

def IsName (tree : Tree) : Prop := ∃ name, tree = .text name ∧ name ≠ ""

def IsTextOrNull (tree : Tree) : Prop := tree = .null ∨ ∃ value, tree = .text value

def IsFlagOrNull (tree : Tree) : Prop := tree = .null ∨ ∃ value, tree = .scalar (.bool value)

/-- The unknown options may hold anything under any key. -/
inductive IsOptions : Tree → Prop
  | mk {hscale width arcgradient arcs entities boxes watermark : Tree}
      {extra : List (Scalar × Tree)} :
      IsTextOrNull hscale → IsTextOrNull width → IsTextOrNull arcgradient →
      IsTextOrNull watermark → IsFlagOrNull arcs → IsFlagOrNull entities → IsFlagOrNull boxes →
      IsOptions (.options hscale width arcgradient arcs entities boxes watermark (.mapping extra))

inductive IsEntity : Tree → Prop
  | mk {name attrs comments : Tree} :
      IsName name → IsAttrs attrs → IsTexts comments → IsEntity (.entity name attrs comments)

mutual

/-- An arc whose inline expressions nest at most `levels` deep. Its kind is one of its own class. -/
inductive IsArc : Nat → Tree → Prop
  | message {levels : Nat} {source target attrs comments : Tree} {kind : ArcKind} :
      IsName source → IsName target → IsAttrs attrs → IsTexts comments →
      IsArc levels (.message source target (.member (.arc kind)) attrs comments)
  | box {levels : Nat} {source target attrs comments : Tree} {kind : BoxKind} :
      IsName source → IsName target → IsAttrs attrs → IsTexts comments →
      IsArc levels (.box source target (.member (.box kind)) attrs comments)
  | empty {levels : Nat} {attrs comments : Tree} {kind : EmptyKind} :
      IsAttrs attrs → IsTexts comments →
      IsArc levels (.empty (.member (.empty kind)) attrs comments)
  | inline {levels : Nat} {source target rows attrs comments : Tree} {kind : InlineKind} :
      IsName source → IsName target → IsAttrs attrs → IsTexts comments → IsRows levels rows →
      IsArc (levels + 1) (.inline source target (.member (.inline kind)) rows attrs comments)

/-- A list of arcs, not empty. -/
inductive IsRow : Nat → Tree → Prop
  | mk {levels : Nat} {arcs : List Tree} :
      arcs ≠ [] → (∀ arc ∈ arcs, IsArc levels arc) → IsRow levels (.list arcs)

inductive IsRows : Nat → Tree → Prop
  | mk {levels : Nat} {rows : List Tree} :
      (∀ row ∈ rows, IsRow levels row) → IsRows levels (.list rows)

end

/-- A chart whose inline expressions nest at most `limit` deep; a negative limit allows none. -/
inductive IsChart (limit : Int) : Tree → Prop
  | mk {options rows comments : Tree} {entities : List Tree} {levels : Nat} :
      limit = levels → IsOptions options → (∀ entity ∈ entities, IsEntity entity) →
      IsRows levels rows → IsTexts comments →
      IsChart limit (.chart options (.list entities) rows comments)

/-- A chart of which nothing is given is one, unless no rows are allowed at all. -/
theorem isChart_bare_iff {limit : Int} :
    (Tree.chart noOptions (.list []) (.list []) (.list [])).IsChart limit ↔ 0 ≤ limit := by
  constructor
  · rintro ⟨rfl, -⟩
    exact Int.natCast_nonneg _
  · intro inside
    obtain ⟨levels, rfl⟩ := Int.eq_ofNat_of_zero_le inside
    have unset : noOptions.IsOptions :=
      .mk (.inl rfl) (.inl rfl) (.inl rfl) (.inl rfl) (.inl rfl) (.inl rfl) (.inl rfl)
    exact .mk rfl unset (List.forall_mem_nil _) (.mk (List.forall_mem_nil _)) ⟨[], rfl⟩

/-! ## Texts, attributes and options -/

variable {place : Place}

theorem exists_checkComments_iff {tree : Tree} :
    (∃ texts, checkComments place tree = .ok texts) ↔ IsTexts tree := by
  constructor
  · rintro ⟨texts, passed⟩
    unfold checkComments at passed
    split at passed
    · split at passed
      · rename_i found
        exact ⟨_, congrArg Tree.list (mapM_text?_eq_some_iff.1 found)⟩
      · cases passed
    · cases passed
  · rintro ⟨texts, rfl⟩
    exact ⟨texts, by rw [checkComments, mapM_text?_eq_some_iff.2 rfl]⟩

theorem exists_checkAttrs_iff {tree : Tree} :
    (∃ attrs, checkAttrs place tree = .ok attrs) ↔ IsAttrs tree := by
  constructor
  · rintro ⟨attrs, passed⟩
    unfold checkAttrs at passed
    split at passed
    · rename_i entries
      cases outcome : checkEntries place entries with
      | error => rw [outcome] at passed; cases passed
      | ok pairs => exact ⟨pairs, congrArg Tree.mapping (checkEntries_eq_ok_iff.1 outcome)⟩
    · cases passed
  · rintro ⟨pairs, rfl⟩
    exact ⟨Mapping.ofList pairs, by rw [checkAttrs, checkEntries_eq_ok_iff.2 rfl]; rfl⟩

theorem exists_checkText_iff {option : TextOption} {tree : Tree} :
    (∃ value, checkText option tree = .ok value) ↔ IsTextOrNull tree := by
  constructor
  · rintro ⟨value, passed⟩
    unfold checkText at passed
    split at passed
    · exact .inl rfl
    · rename_i text
      exact .inr ⟨text, rfl⟩
    · cases passed
  · rintro (rfl | ⟨value, rfl⟩)
    · exact ⟨none, rfl⟩
    · exact ⟨some value, rfl⟩

theorem exists_checkFlag_iff {option : FlagOption} {tree : Tree} :
    (∃ value, checkFlag option tree = .ok value) ↔ IsFlagOrNull tree := by
  constructor
  · rintro ⟨value, passed⟩
    unfold checkFlag at passed
    split at passed
    · exact .inl rfl
    · rename_i flag
      exact .inr ⟨flag, rfl⟩
    · cases passed
  · rintro (rfl | ⟨value, rfl⟩)
    · exact ⟨none, rfl⟩
    · exact ⟨some value, rfl⟩

theorem exists_checkOptions_iff {tree : Tree} :
    (∃ checked, checkOptions tree = .ok checked) ↔ IsOptions tree := by
  constructor
  · rintro ⟨checked, passed⟩
    unfold checkOptions at passed
    split at passed
    · simp only [Except.bind_eq_ok_iff] at passed
      obtain ⟨_, hscale, _, width, _, arcgradient, _, watermark, _, arcs, _, entities, _, boxes,
        passed⟩ := passed
      split at passed
      · exact .mk (exists_checkText_iff.1 ⟨_, hscale⟩) (exists_checkText_iff.1 ⟨_, width⟩)
          (exists_checkText_iff.1 ⟨_, arcgradient⟩) (exists_checkText_iff.1 ⟨_, watermark⟩)
          (exists_checkFlag_iff.1 ⟨_, arcs⟩) (exists_checkFlag_iff.1 ⟨_, entities⟩)
          (exists_checkFlag_iff.1 ⟨_, boxes⟩)
      · cases passed
    · cases passed
  · rintro ⟨hscale, width, arcgradient, watermark, arcs, entities, boxes⟩
    simp only [checkOptions, Except.exists_bind_eq_ok_iff, Except.ok.injEq, exists_eq', and_true,
      exists_and_right, exists_checkText_iff, exists_checkFlag_iff]
    exact ⟨hscale, width, arcgradient, watermark, arcs, entities, boxes⟩

/-! ## Entities -/

theorem exists_checkEnd_iff {tree : Tree} :
    (∃ name, checkEnd place tree = .ok name) ↔ IsName tree := by
  constructor
  · rintro ⟨name, passed⟩
    unfold checkEnd at passed
    split at passed
    · cases passed
    · cases passed
    · rename_i text nonempty found
      exact ⟨text, text?_eq_some_iff.1 found, nonempty⟩
  · rintro ⟨name, rfl, nonempty⟩
    exact ⟨name, checkEnd_eq_ok_iff.2 ⟨nonempty, rfl⟩⟩

theorem exists_checkEntity_iff {tree : Tree} :
    (∃ entity, checkEntity tree = .ok entity) ↔ IsEntity tree := by
  constructor
  · rintro ⟨entity, passed⟩
    unfold checkEntity at passed
    split at passed
    · split at passed
      · cases passed
      · cases passed
      · rename_i text nonempty found
        simp only [Except.bind_eq_ok_iff] at passed
        obtain ⟨_, attrs, _, comments, -⟩ := passed
        exact .mk ⟨text, text?_eq_some_iff.1 found, nonempty⟩ (exists_checkAttrs_iff.1 ⟨_, attrs⟩)
          (exists_checkComments_iff.1 ⟨_, comments⟩)
    · cases passed
  · rintro ⟨⟨name, rfl, nonempty⟩, attrs, comments⟩
    unfold checkEntity
    dsimp only [text?]
    split
    · rename_i found
      cases found
    · rename_i found
      exact absurd (Option.some.inj found) nonempty
    · simp only [Except.exists_bind_eq_ok_iff, Except.ok.injEq, exists_eq', and_true,
        exists_and_right, exists_checkAttrs_iff, exists_checkComments_iff]
      exact ⟨attrs, comments⟩

/-- What is checked one by one passes when each item does. -/
theorem exists_mapM_iff {items : List Tree} {α : Type} {check : Tree → Except Misfit α} :
    (∃ checked, items.mapM check = .ok checked) ↔ ∀ item ∈ items, ∃ a, check item = .ok a := by
  induction items with
  | nil => exact iff_of_true ⟨[], rfl⟩ (List.forall_mem_nil _)
  | cons item rest step =>
    rw [List.forall_mem_cons, ← step]
    simp [List.mapM_cons, Except.exists_bind_eq_ok_iff, pure, Except.pure]

/-! ## Arcs and rows

The induction is on how many levels may still be opened; the limit only shows in messages. -/

variable {limit : Int} {levels : Nat}

theorem exists_checkArcList_iff {room : Int} {arcs : List Tree} :
    (∃ row, checkArcList limit room arcs = .ok row) ↔
      ∀ arc ∈ arcs, ∃ checked, checkArc limit room arc = .ok checked := by
  induction arcs with
  | nil => simp [checkArcList]
  | cons arc rest step =>
    simp [checkArcList, Except.exists_bind_eq_ok_iff, step]

theorem exists_checkRow_iff {room : Int} {tree : Tree} :
    (∃ row, checkRow limit room tree = .ok row) ↔ ∃ arcs, tree = .list arcs ∧ arcs ≠ [] ∧
      ∀ arc ∈ arcs, ∃ checked, checkArc limit room arc = .ok checked := by
  unfold checkRow
  split
  · simp [Except.exists_bind_eq_ok_iff, exists_checkArcList_iff]
  · rename_i other
    simp only [reduceCtorEq, exists_false, false_iff]
    rintro ⟨arcs, rfl, nonempty, -⟩
    obtain ⟨arc, rest, rfl⟩ := List.exists_cons_of_ne_nil nonempty
    exact other arc rest rfl

theorem exists_checkRowList_iff {room : Int} {items : List Tree} :
    (∃ rows, checkRowList limit room items = .ok rows) ↔
      ∀ row ∈ items, ∃ checked, checkRow limit room row = .ok checked := by
  induction items with
  | nil => simp [checkRowList]
  | cons row rest step =>
    simp [checkRowList, Except.exists_bind_eq_ok_iff, step]

theorem exists_checkRows_iff_of_arcs
    (arcs : ∀ arc, (∃ checked, checkArc limit levels arc = .ok checked) ↔ IsArc levels arc)
    {tree : Tree} :
    (∃ rows, checkRows limit levels tree = .ok rows) ↔ IsRows levels tree := by
  unfold checkRows
  split
  · rename_i items
    rw [if_neg (by omega), exists_checkRowList_iff]
    simp only [exists_checkRow_iff, arcs]
    constructor
    · intro passed
      refine .mk fun row member => ?_
      obtain ⟨arcs, rfl, nonempty, typed⟩ := passed row member
      exact .mk nonempty typed
    · rintro ⟨typed⟩ row member
      obtain ⟨nonempty, typed⟩ := typed row member
      exact ⟨_, rfl, nonempty, typed⟩
  · rename_i other
    rw [if_neg (by omega)]
    constructor
    · rintro ⟨rows, ⟨⟩⟩
    · rintro ⟨typed⟩
      exact absurd rfl (other _)

theorem exists_checkArc_iff_of_rows
    (inside : ∀ rows, (∃ checked, checkRows limit ((levels : Int) - 1) rows = .ok checked) ↔
      ∃ below, levels = below + 1 ∧ IsRows below rows) {tree : Tree} :
    (∃ arc, checkArc limit levels tree = .ok arc) ↔ IsArc levels tree := by
  cases tree with
  | message source target kind attrs comments =>
    unfold checkArc
    split
    · simp only [Except.exists_bind_eq_ok_iff, Except.ok.injEq, exists_eq', and_true,
        exists_and_right, exists_checkEnd_iff, exists_checkAttrs_iff, exists_checkComments_iff]
      constructor
      · rintro ⟨source, target, attrs, comments⟩
        exact .message source target attrs comments
      · rintro (⟨source, target, attrs, comments⟩ | _)
        exact ⟨source, target, attrs, comments⟩
    · rename_i other
      simp only [reduceCtorEq, exists_false, false_iff]
      rintro ⟨⟩
      exact other _ rfl
  | box source target kind attrs comments =>
    unfold checkArc
    split
    · simp only [Except.exists_bind_eq_ok_iff, Except.ok.injEq, exists_eq', and_true,
        exists_and_right, exists_checkEnd_iff, exists_checkAttrs_iff, exists_checkComments_iff]
      constructor
      · rintro ⟨source, target, attrs, comments⟩
        exact .box source target attrs comments
      · rintro (_ | ⟨source, target, attrs, comments⟩)
        exact ⟨source, target, attrs, comments⟩
    · rename_i other
      simp only [reduceCtorEq, exists_false, false_iff]
      rintro ⟨⟩
      exact other _ rfl
  | empty kind attrs comments =>
    unfold checkArc
    split
    · simp only [Except.exists_bind_eq_ok_iff, Except.ok.injEq, exists_eq', and_true,
        exists_and_right, exists_checkAttrs_iff, exists_checkComments_iff]
      constructor
      · rintro ⟨attrs, comments⟩
        exact .empty attrs comments
      · rintro (_ | _ | ⟨attrs, comments⟩)
        exact ⟨attrs, comments⟩
    · rename_i other
      simp only [reduceCtorEq, exists_false, false_iff]
      rintro ⟨⟩
      exact other _ rfl
  | inline source target kind rows attrs comments =>
    unfold checkArc
    split
    · simp only [Except.exists_bind_eq_ok_iff, Except.ok.injEq, exists_eq', and_true,
        exists_and_right, exists_checkEnd_iff, exists_checkAttrs_iff, exists_checkComments_iff,
        inside]
      constructor
      · rintro ⟨source, target, attrs, comments, below, rfl, rows⟩
        exact .inline source target attrs comments rows
      · rintro (_ | _ | _ | @⟨below, _, _, _, _, _, _, source, target, attrs, comments, rows⟩)
        exact ⟨source, target, attrs, comments, below, rfl, rows⟩
    · rename_i other
      simp only [reduceCtorEq, exists_false, false_iff]
      rintro ⟨⟩
      exact other _ rfl
  | _ =>
    simp only [checkArc, reduceCtorEq, exists_false, false_iff]
    rintro ⟨⟩

theorem exists_checkArc_iff {tree : Tree} :
    (∃ arc, checkArc limit levels tree = .ok arc) ↔ IsArc levels tree := by
  induction levels generalizing tree with
  | zero =>
    refine exists_checkArc_iff_of_rows fun rows => ?_
    -- There is no room for rows at all.
    cases rows <;> simp [checkRows]
  | succ levels step =>
    refine exists_checkArc_iff_of_rows fun rows => ?_
    rw [Int.natCast_succ, Int.add_sub_cancel, exists_checkRows_iff_of_arcs fun _ => step]
    simp

/-! ## Charts -/

theorem exists_checkRows_iff {tree : Tree} :
    (∃ rows, checkRows limit limit tree = .ok rows) ↔
      ∃ levels : Nat, limit = levels ∧ IsRows levels tree := by
  obtain inside | outside := Int.lt_or_le limit 0
  · constructor
    · rintro ⟨rows, passed⟩
      cases tree <;> simp [checkRows, inside] at passed
    · rintro ⟨levels, rfl, -⟩
      omega
  · obtain ⟨levels, rfl⟩ := Int.eq_ofNat_of_zero_le outside
    rw [exists_checkRows_iff_of_arcs fun _ => exists_checkArc_iff]
    simp only [Int.ofNat_inj, exists_eq_left']

/-- The check passes the trees that are charts, and no others. -/
theorem exists_check_eq_ok_iff {tree : Tree} :
    (∃ checked, tree.check limit = .ok checked) ↔ tree.IsChart limit := by
  unfold check
  split
  · simp only [Except.exists_bind_eq_ok_iff]
    split
    · simp only [Except.exists_bind_eq_ok_iff, Except.ok.injEq, exists_eq', and_true,
        exists_and_right, exists_checkComments_iff, exists_checkOptions_iff, exists_mapM_iff,
        exists_checkEntity_iff, exists_checkRows_iff]
      constructor
      · rintro ⟨comments, options, entities, levels, rfl, rows⟩
        exact .mk rfl options entities rows comments
      · rintro ⟨levels, options, entities, rows, comments⟩
        exact ⟨comments, options, entities, _, levels, rows⟩
    · rename_i other
      simp only [Except.exists_bind_eq_ok_iff, reduceCtorEq, false_and, exists_false, and_false,
        false_iff]
      exact fun | .mk .. => absurd rfl (other _)
  · rename_i other
    simp only [reduceCtorEq, exists_false, false_iff]
    exact fun | .mk .. => other _ _ _ _ rfl

end SeqChart.Tree
