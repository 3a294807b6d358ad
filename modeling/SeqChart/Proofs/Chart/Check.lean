import SeqChart.Chart.Check
import SeqChart.Chart.Loose
import SeqChart.Proofs.Data.Except
/-!
Checking the tree of a chart. Main statement, `check_toTree_eq_ok_iff`: it passes when nothing is
empty that has to be there and no rows lie too deep, and then the chart comes out of the check but
for the options that no dialect knows.
-/

namespace SeqChart

namespace Arc

mutual

/-- Both ends have names, and every row inside has arcs. -/
def Filled : Arc String String → Prop
  | .message _ source target _ _ => source ≠ "" ∧ target ≠ ""
  | .box _ source target _ _ => source ≠ "" ∧ target ≠ ""
  | .empty .. => True
  | .inline _ source target rows _ _ => source ≠ "" ∧ target ≠ "" ∧ FilledRows rows

def FilledRow : List (Arc String String) → Prop
  | [] => True
  | arc :: rest => Filled arc ∧ FilledRow rest

def FilledRows : List (List (Arc String String)) → Prop
  | [] => True
  | row :: rest => row ≠ [] ∧ FilledRow row ∧ FilledRows rest

end

end Arc

/-- Every entity has a name, every arc has its ends, and every row has arcs. -/
structure Chart.Filled (chart : Chart) : Prop where
  entities : ∀ entity ∈ chart.entities, entity.name ≠ ""
  rows : Arc.FilledRows chart.rows

namespace Tree

variable {place : Place}

/-! ## Texts, attributes and options -/

theorem text?_eq_some_iff {tree : Tree} {text : String} :
    tree.text? = some text ↔ tree = .text text := by
  unfold text?
  split <;> simp_all

theorem mapM_text?_eq_some_iff {items : List Tree} {texts : List String} :
    items.mapM text? = some texts ↔ items = texts.map .text := by
  induction items generalizing texts with
  | nil => cases texts <;> simp
  | cons item rest step =>
    cases texts with
    | nil => simp [List.mapM_cons, Option.bind_eq_some_iff]
    | cons text more => simp [List.mapM_cons, Option.bind_eq_some_iff, text?_eq_some_iff, step]

theorem checkEntries_eq_ok_iff {entries : List (Scalar × Tree)} {pairs : List (String × String)} :
    checkEntries place entries = .ok pairs ↔
      entries = pairs.map fun pair => (.text pair.1, .text pair.2) := by
  fun_induction checkEntries place entries generalizing pairs with
  | case1 => cases pairs <;> simp
  | case2 key value rest step =>
    cases pairs with
    | nil => cases checkEntries place rest <;> simp [Except.map]
    | cons pair more =>
      simp only [List.map_cons, List.cons.injEq, ← step]
      cases checkEntries place rest <;> simp [Except.map, Prod.ext_iff, eq_comm]
  | case3 key value rest untyped =>
    cases pairs with
    | nil => simp
    | cons pair more =>
      simp only [reduceCtorEq, List.map_cons, List.cons.injEq, Prod.mk.injEq, false_iff]
      rintro ⟨⟨rfl, rfl⟩, -⟩
      exact untyped pair.1 pair.2 rfl rfl

theorem ofItems_texts (texts : List String) :
    ofItems (texts.map .text) = texts.map .text := by
  induction texts with
  | nil => rfl
  | cons text rest step =>
    rw [List.map_cons, ofItems, step]
    rfl

theorem ofMembers_texts (pairs : List (String × String)) :
    ofMembers (pairs.map fun pair => (.text pair.1, .text pair.2)) =
      pairs.map fun pair => (.text pair.1, .text pair.2) := by
  induction pairs with
  | nil => rfl
  | cons pair rest step =>
    rw [List.map_cons, ofMembers, step]
    rfl

theorem checkComments_texts (place : Place) (comments : List String) :
    checkComments place (.list (ofItems (comments.map .text))) = .ok comments := by
  rw [checkComments, ofItems_texts, mapM_text?_eq_some_iff.2 rfl]

theorem checkAttrs_loosen (place : Place) (attrs : Mapping String String) :
    checkAttrs place (ofAttrs attrs.loosen) = .ok attrs := by
  show (checkEntries place (ofMembers (attrs.entries.map fun entry =>
    (.text entry.1, .text entry.2)))).map Mapping.ofList = .ok attrs
  rw [ofMembers_texts, checkEntries_eq_ok_iff.2 rfl]
  show Except.ok (Mapping.ofList attrs.entries) = .ok attrs
  rw [Mapping.ofList_entries]

theorem checkEnd_eq_ok_iff {name found : String} :
    checkEnd place (ofPlain (.text name)) = .ok found ↔ name ≠ "" ∧ found = name := by
  unfold checkEnd
  split
  · rename_i none
    cases none
  · rename_i empty
    obtain rfl := Option.some.inj empty
    simp
  · rename_i text other same
    obtain rfl := Option.some.inj same
    simp_all [eq_comm]

theorem checkOptions_loosen (options : Options String Bool String) :
    checkOptions (ofOptions (options.map .ofText .ofBool .text)) =
      .ok ({ options with extra := ∅ }, options.extra.entries.map fun entry => .text entry.1) := by
  have texts (option : TextOption) (value : Option String) : checkText option
      (((value.map Present.ofText).map fun v => ofPlain v.value).getD null) = .ok value := by
    cases value <;> rfl
  have flags (option : FlagOption) (value : Option Bool) : checkFlag option
      (((value.map Present.ofBool).map fun v => ofPlain v.value).getD null) = .ok value := by
    cases value <;> rfl
  rw [ofOptions, Options.map, checkOptions]
  simp only [texts, flags]
  simp [bind, Except.bind, Mapping.mapValues]

theorem checkEntity_eq_ok_iff {entity checked : Entity String String} :
    checkEntity (ofEntity entity.loosen) = .ok checked ↔ entity.name ≠ "" ∧ checked = entity := by
  unfold ofEntity Entity.loosen checkEntity
  dsimp only
  split
  · rename_i none
    cases none
  · rename_i empty
    obtain named := Option.some.inj empty
    simp [named]
  · rename_i text other same
    obtain rfl := Option.some.inj same
    rw [checkAttrs_loosen, checkComments_texts]
    constructor
    · rintro ⟨⟩
      exact ⟨other, rfl⟩
    · rintro ⟨-, rfl⟩
      rfl

theorem checkEntities_eq_ok_iff {entities checked : List (Entity String String)} :
    ((entities.map Entity.loosen).map ofEntity).mapM checkEntity = .ok checked ↔
      (∀ entity ∈ entities, entity.name ≠ "") ∧ checked = entities := by
  induction entities generalizing checked with
  | nil =>
    constructor
    · rintro ⟨⟩
      exact ⟨List.forall_mem_nil _, rfl⟩
    · rintro ⟨-, rfl⟩
      rfl
  | cons entity rest step =>
    simp only [List.map_cons, List.mapM_cons, Except.bind_eq_ok_iff, checkEntity_eq_ok_iff, step,
      List.forall_mem_cons]
    constructor
    · rintro ⟨_, ⟨named, rfl⟩, _, ⟨properRest, rfl⟩, ⟨⟩⟩
      exact ⟨⟨named, properRest⟩, rfl⟩
    · rintro ⟨⟨named, properRest⟩, rfl⟩
      exact ⟨entity, ⟨named, rfl⟩, rest, ⟨properRest, rfl⟩, rfl⟩

/-! ## Arcs and rows -/

theorem checkRows_of_list {limit room : Int} {rows checked : Rows String String}
    (list : 0 ≤ room → (checkRowList limit room (ofRows (Arc.loosenRows rows)) = .ok checked ↔
      (Arc.FilledRows rows ∧ (Arc.nestingOfRows rows : Int) ≤ room) ∧ checked = rows)) :
    checkRows limit room (.list (ofRows (Arc.loosenRows rows))) = .ok checked ↔
      (Arc.FilledRows rows ∧ (Arc.nestingOfRows rows : Int) ≤ room) ∧ checked = rows := by
  rw [checkRows]
  split
  · rename_i outside
    constructor
    · rintro ⟨⟩
    · rintro ⟨⟨-, fits⟩, -⟩
      omega
  · rename_i inside
    exact list (Int.not_lt.1 inside)

mutual

theorem checkArc_eq_ok_iff {limit room : Int} (inside : 0 ≤ room) :
    ∀ {arc checked : Arc String String},
    checkArc limit room (ofArc arc.loosen) = .ok checked ↔
      (arc.Filled ∧ (arc.nesting : Int) ≤ room) ∧ checked = arc
  | .message kind source target attrs comments, checked => by
    simp only [Arc.loosen, ofArc, checkArc, Except.bind_eq_ok_iff, checkEnd_eq_ok_iff,
      checkAttrs_loosen, checkComments_texts, Arc.Filled, Arc.nesting]
    grind
  | .box kind source target attrs comments, checked => by
    simp only [Arc.loosen, ofArc, checkArc, Except.bind_eq_ok_iff, checkEnd_eq_ok_iff,
      checkAttrs_loosen, checkComments_texts, Arc.Filled, Arc.nesting]
    grind
  | .empty kind attrs comments, checked => by
    simp only [Arc.loosen, ofArc, checkArc, Except.bind_eq_ok_iff,
      checkAttrs_loosen, checkComments_texts, Arc.Filled, Arc.nesting]
    grind
  | .inline kind source target rows attrs comments, checked => by
    have deeper (rows' : Rows String String) :
        checkRows limit (room - 1) (.list (ofRows (Arc.loosenRows rows))) = .ok rows' ↔
          (Arc.FilledRows rows ∧ (Arc.nestingOfRows rows : Int) ≤ room - 1) ∧ rows' = rows :=
      checkRows_of_list fun inside => checkRowList_eq_ok_iff inside
    simp only [Arc.loosen, ofArc, checkArc, Except.bind_eq_ok_iff, checkEnd_eq_ok_iff,
      checkAttrs_loosen, checkComments_texts, deeper, Arc.Filled, Arc.nesting]
    grind
termination_by structural arc _ => arc

theorem checkArcList_eq_ok_iff {limit room : Int} (inside : 0 ≤ room) :
    ∀ {row checked : List (Arc String String)},
    checkArcList limit room (ofRow (Arc.loosenRow row)) = .ok checked ↔
      (Arc.FilledRow row ∧ (Arc.nestingOfRow row : Int) ≤ room) ∧ checked = row
  | [], checked => by
    simp only [Arc.loosenRow, ofRow, checkArcList, Arc.FilledRow, Arc.nestingOfRow]
    grind
  | arc :: rest, checked => by
    simp only [Arc.loosenRow, ofRow, checkArcList, Except.bind_eq_ok_iff,
      checkArc_eq_ok_iff inside, checkArcList_eq_ok_iff inside, Arc.FilledRow, Arc.nestingOfRow]
    grind
termination_by structural row _ => row

theorem checkRowList_eq_ok_iff {limit room : Int} (inside : 0 ≤ room) :
    ∀ {rows checked : Rows String String},
    checkRowList limit room (ofRows (Arc.loosenRows rows)) = .ok checked ↔
      (Arc.FilledRows rows ∧ (Arc.nestingOfRows rows : Int) ≤ room) ∧ checked = rows
  | [], checked => by
    simp only [Arc.loosenRows, ofRows, checkRowList, Arc.FilledRows, Arc.nestingOfRows]
    grind
  | [] :: rest, checked => by
    simp [Arc.loosenRows, Arc.loosenRow, ofRows, ofRow, checkRowList, checkRow, Arc.FilledRows,
      bind, Except.bind]
  | (arc :: more) :: rest, checked => by
    simp only [Arc.loosenRows, Arc.loosenRow, ofRows, ofRow, checkRowList, checkRow,
      Except.bind_eq_ok_iff, checkArc_eq_ok_iff inside, checkArcList_eq_ok_iff inside,
      checkRowList_eq_ok_iff inside, Arc.FilledRows, Arc.FilledRow, Arc.nestingOfRows,
      Arc.nestingOfRow]
    grind
termination_by structural rows _ => rows

end

end Tree

/-! ## Charts -/

/-- The chart with the options that some dialect knows. -/
def Chart.known (chart : Chart) : Chart :=
  { chart with options := { chart.options with extra := ∅ } }

theorem Chart.check_toTree_eq_ok_iff {chart : Chart} {limit : Int} {checked : Checked} :
    chart.toTree.check limit = .ok checked ↔ (chart.Filled ∧ (chart.nesting : Int) ≤ limit) ∧
      checked = ⟨chart.known, chart.options.extra.entries.map fun entry => .text entry.1⟩ := by
  have inside (rows : Rows String String) :
      Tree.checkRows limit limit (.list (Tree.ofRows (Arc.loosenRows chart.rows))) = .ok rows ↔
        (Arc.FilledRows chart.rows ∧ (Arc.nestingOfRows chart.rows : Int) ≤ limit) ∧
          rows = chart.rows :=
    Tree.checkRows_of_list fun within => Tree.checkRowList_eq_ok_iff within
  simp only [Chart.toTree, LooseChart.toTree, Chart.loosen, Tree.ofContent, Tree.ofPlain,
    Tree.check, Tree.checkComments_texts, Tree.checkOptions_loosen, Except.bind_eq_ok_iff,
    Tree.checkEntities_eq_ok_iff, inside]
  constructor
  · rintro ⟨_, ⟨⟩, _, ⟨⟩, _, ⟨named, rfl⟩, _, ⟨⟨filled, fits⟩, rfl⟩, ⟨⟩⟩
    exact ⟨⟨⟨named, filled⟩, fits⟩, rfl⟩
  · rintro ⟨⟨⟨named, filled⟩, fits⟩, rfl⟩
    exact ⟨_, rfl, _, rfl, _, ⟨named, rfl⟩, _, ⟨⟨filled, fits⟩, rfl⟩, rfl⟩

end SeqChart
