import SeqChart.Proofs.Grammar.Syntax
/-!
How many levels a text needs. Main statement, `Program.within`: a text that means a chart when some
number of levels is allowed means it whenever the blocks of the chart nest no deeper than allowed.
-/

namespace SeqChart

theorem Arc.nesting_le_of_mem {row : List (Arc String String)} {arc : Arc String String}
    (member : arc ∈ row) : arc.nesting ≤ Arc.nestingOfRow row := by
  induction member with
  | head => exact Nat.le_max_left _ _
  | tail _ _ step => exact Nat.le_trans step (Nat.le_max_right _ _)

namespace Grammar

theorem ListOf.imp_of_mem {α : Type} {Item Item' : List String → List Char → α → List Char → Prop}
    {before : List String} {s r : List Char} {as : List α} (list : ListOf Item before s as r)
    (items : ∀ a ∈ as, ∀ {before s r}, Item before s a r → Item' before s a r) :
    ListOf Item' before s as r := by
  induction list with
  | one item => exact .one (items _ (by simp) item)
  | more item gap layout _ step =>
    exact .more (items _ (by simp) item) gap layout
      (step fun a member => items a (List.mem_cons_of_mem _ member))

section

variable {Block Block' : List Char → Rows String String → List Char → Prop} {levels : Nat}

theorem ArcItem.within
    (blocks : ∀ {s rows r}, Block s rows r → Arc.nestingOfRows rows < levels → Block' s rows r)
    {before : List String} {s r : List Char} {a : Arc String String}
    (item : ArcItem Block before s a r) (fits : a.nesting ≤ levels) :
    ArcItem Block' before s a r := by
  cases item with
  | empty attrs => exact .empty attrs
  | message source gap operator gap' target attrs =>
    exact .message source gap operator gap' target attrs
  | box source other gap keyword gap' target attrs =>
    exact .box source other gap keyword gap' target attrs
  | inline source other gap keyword gap' target attrs opened inside closed =>
    exact .inline source other gap keyword gap' target attrs opened (blocks inside fits) closed

theorem row_within
    (blocks : ∀ {s rows r}, Block s rows r → Arc.nestingOfRows rows < levels → Block' s rows r)
    {before : List String} {s r : List Char} {row : List (Arc String String)}
    (list : ListOf (ArcItem Block) before s row r) (fits : Arc.nestingOfRow row ≤ levels) :
    ListOf (ArcItem Block') before s row r :=
  list.imp_of_mem fun _ member _ _ _ item =>
    item.within blocks (Nat.le_trans (Arc.nesting_le_of_mem member) fits)

theorem RowList.within
    (blocks : ∀ {s rows r}, Block s rows r → Arc.nestingOfRows rows < levels → Block' s rows r)
    {before : List String} {s r : List Char} {rows : Rows String String}
    (list : RowList Block before s rows r) (fits : Arc.nestingOfRows rows ≤ levels) :
    RowList Block' before s rows r := by
  induction list with
  | nil => exact .nil
  | closed row gap layout _ step =>
    obtain ⟨first, rest⟩ := Nat.max_le.1 fits
    exact .closed (row_within blocks row first) gap layout (step rest)
  | unclosed row last gap _ step =>
    obtain ⟨first, rest⟩ := Nat.max_le.1 fits
    exact .unclosed (row_within blocks row first) last gap (step rest)

end

theorem Block.within {levels levels' : Nat} {s r : List Char} {rows : Rows String String}
    (inside : Block levels s rows r) (fits : Arc.nestingOfRows rows < levels') :
    Block levels' s rows r := by
  induction levels' generalizing levels s rows r with
  | zero => exact absurd fits (Nat.not_lt_zero _)
  | succ levels' step =>
    cases levels with
    | zero => exact inside.elim
    | succ levels =>
      obtain ⟨comments, t, layout, list⟩ := inside
      exact ⟨comments, t, layout, list.within step (Nat.le_of_lt_succ fits)⟩

/-- The levels that are allowed do not matter as long as the blocks of the chart stay
within them. -/
theorem Program.within {levels levels' : Nat} {source : List Char} {c : Chart}
    (program : Program levels source c) (fits : c.nesting ≤ levels') :
    Program levels' source c := by
  obtain ⟨layout, keyword, opened, layout', body, closed, gap⟩ := program
  obtain ⟨options, entities, list⟩ := body
  exact .mk layout keyword opened layout' (.mk options entities (list.within Block.within fits))
    closed gap

end Grammar

end SeqChart
