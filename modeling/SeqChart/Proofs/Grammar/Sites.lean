import SeqChart.Proofs.Grammar.Exchange
import SeqChart.Proofs.Reading.Openings
/-!
Places where a row ends with an inline expression, at any depth. `X s a r p a'` says that `s` means
`a` up to `r` as an `X`, that a row that is part of it ends at `p`, and that `a'` is `a` but for the
comments at the head of the next row, where they belong to a row without a semicolon before it.
Main statement, `programSite_carries`: a text whose semicolon at such a place is left out, or put
there, means `a'`.
-/

namespace SeqChart

/-! ## Comments of the next row -/

def Arc.uncommented : Arc String String → Arc String String
  | .message kind source target attrs _ => .message kind source target attrs []
  | .box kind source target attrs _ => .box kind source target attrs []
  | .empty kind attrs _ => .empty kind attrs []
  | .inline kind source target rows attrs _ => .inline kind source target rows attrs []

theorem Arc.isInline_uncommented (a : Arc String String) : a.uncommented.isInline = a.isInline := by
  cases a <;> rfl

/-- The rows, but the first arc of the first one has no comments. -/
def Arc.uncommentFirst : Rows String String → Rows String String
  | (arc :: row) :: rows => (arc.uncommented :: row) :: rows
  | rows => rows

namespace Grammar

variable {α : Type} {Block : List Char → Rows String String → List Char → Prop}

theorem ArcItem.uncommented {before : List String} {s r : List Char} {a : Arc String String}
    (item : ArcItem Block before s a r) : ArcItem Block [] s a.uncommented r := by
  cases item with
  | empty stands => exact .empty stands
  | message source gap operator gap' target stands =>
    exact .message source gap operator gap' target stands
  | box source other gap keyword gap' target stands =>
    exact .box source other gap keyword gap' target stands
  | inline source other gap keyword gap' target stands opened inside closed =>
    exact .inline source other gap keyword gap' target stands opened inside closed

theorem row_uncommented {before : List String} {s r : List Char} {a : Arc String String}
    {row : List (Arc String String)} (list : ListOf (ArcItem Block) before s (a :: row) r) :
    ListOf (ArcItem Block) [] s (a.uncommented :: row) r := by
  cases list with
  | one item => exact .one item.uncommented
  | more item gap layout list => exact .more item.uncommented gap layout list

theorem RowList.uncommentFirst {before : List String} {s r : List Char}
    {rows : Rows String String} (list : RowList Block before s rows r) :
    RowList Block [] s (Arc.uncommentFirst rows) r := by
  cases list with
  | nil => exact .nil
  | @closed _ _ _ _ _ _ _ row _ listed gap layout list =>
    cases row with
    | nil => cases listed
    | cons a row => exact .closed (row_uncommented listed) gap layout list
  | @unclosed _ _ _ _ _ row _ listed last gap list =>
    cases row with
    | nil => cases listed
    | cons a row =>
      refine .unclosed (row_uncommented listed) ?_ gap list
      cases row with
      | nil => simpa [Arc.isInline_uncommented] using last
      | cons b row => simpa using last

/-! ## Places -/

/-- One of the items is the one where the place is. -/
inductive ListSite (Item : List String → List Char → α → List Char → Prop)
    (Site : List String → List Char → α → List Char → List Char → α → Prop) :
    List String → List Char → List α → List Char → List Char → List α → Prop
  | one {before : List String} {s r p : List Char} {a a' : α} :
      Site before s a r p a' → ListSite Item Site before s [a] r p [a']
  | first {before comments : List String} {s t u v r p : List Char} {a a' : α} {as : List α} :
      Site before s a t p a' → Gap t (',' :: u) → Layout u comments v →
      ListOf Item comments v as r → ListSite Item Site before s (a :: as) r p (a' :: as)
  | later {before comments : List String} {s t u v r p : List Char} {a : α} {as as' : List α} :
      Item before s a t → Gap t (',' :: u) → Layout u comments v →
      ListSite Item Site comments v as r p as' →
      ListSite Item Site before s (a :: as) r p (a :: as')

/-- The place is in the block of the arc. -/
inductive ArcSite (Inside : List Char → Rows String String → List Char → List Char →
      Rows String String → Prop) :
    List String → List Char → Arc String String → List Char → List Char → Arc String String → Prop
  | inline {before : List String} {s u b r p : List Char} {kind : InlineKind}
      {source target : String} {rows rows' : Rows String String} {attrs : Mapping String String} :
      InlineHead s kind source target attrs u → Inside u rows b p rows' → Gap b ('\x7d' :: r) →
      ArcSite Inside before s (.inline kind source target rows attrs before) r p
        (.inline kind source target rows' attrs before)

/-- The place is at the end of one of the rows, or in the block of an arc of one of them. -/
inductive RowsSite (Block : List Char → Rows String String → List Char → Prop)
    (Inside : List Char → Rows String String → List Char → List Char → Rows String String → Prop)
    (RowEnd : List String → List Char → Rows String String → List Char → List Char →
      Rows String String → Prop) :
    List String → List Char → Rows String String → List Char → List Char → Rows String String → Prop
  | here {before : List String} {s r p : List Char} {rows rows' : Rows String String} :
      RowEnd before s rows r p rows' → RowsSite Block Inside RowEnd before s rows r p rows'
  | inClosed {before comments : List String} {s t u v r p : List Char}
      {row row' : List (Arc String String)} {rows : Rows String String} :
      ListSite (ArcItem Block) (ArcSite Inside) before s row t p row' → Gap t (';' :: u) →
      Layout u comments v → RowList Block comments v rows r →
      RowsSite Block Inside RowEnd before s (row :: rows) r p (row' :: rows)
  | inUnclosed {before : List String} {s t u r p : List Char}
      {row row' : List (Arc String String)} {rows : Rows String String} :
      ListSite (ArcItem Block) (ArcSite Inside) before s row t p row' →
      (∃ arc ∈ row.getLast?, arc.isInline = true) → Gap t u → RowList Block [] u rows r →
      RowsSite Block Inside RowEnd before s (row :: rows) r p (row' :: rows)
  | afterClosed {before comments : List String} {s t u v r p : List Char}
      {row : List (Arc String String)} {rows rows' : Rows String String} :
      ListOf (ArcItem Block) before s row t → Gap t (';' :: u) → Layout u comments v →
      RowsSite Block Inside RowEnd comments v rows r p rows' →
      RowsSite Block Inside RowEnd before s (row :: rows) r p (row :: rows')
  | afterUnclosed {before : List String} {s t u r p : List Char}
      {row : List (Arc String String)} {rows rows' : Rows String String} :
      ListOf (ArcItem Block) before s row t → (∃ arc ∈ row.getLast?, arc.isInline = true) →
      Gap t u → RowsSite Block Inside RowEnd [] u rows r p rows' →
      RowsSite Block Inside RowEnd before s (row :: rows) r p (row :: rows')

/-- What a row end is may depend on what blocks are, which depends on the levels. -/
def BlockSite (RowEnd : (List Char → Rows String String → List Char → Prop) → List String →
      List Char → Rows String String → List Char → List Char → Rows String String → Prop) :
    Nat → List Char → Rows String String → List Char → List Char → Rows String String → Prop
  | 0, _, _, _, _, _ => False
  | levels + 1, s, rows, r, p, rows' =>
    ∃ comments t, Layout s comments t ∧ RowsSite (Grammar.Block levels) (BlockSite RowEnd levels)
      (RowEnd (Grammar.Block levels)) comments t rows r p rows'

inductive ProgramSite (RowEnd : (List Char → Rows String String → List Char → Prop) → List String →
      List Char → Rows String String → List Char → List Char → Rows String String → Prop)
    (levels : Nat) : List Char → Chart → List Char → Chart → Prop
  | mk {head before between after : List String} {source s t u v w x y z p : List Char}
      {options : Options String Bool String} {entities : List (Entity String String)}
      {rows rows' : Rows String String} :
      Layout source head s → Keyword "msc" s t → Gap t ('\x7b' :: u) → Layout u before v →
      OptionsPart before v options between w → EntitiesPart between w entities after x →
      RowsSite (Grammar.Block levels) (BlockSite RowEnd levels) (RowEnd (Grammar.Block levels))
        after x rows y p rows' →
      Gap y ('\x7d' :: z) → Gap z [] →
      ProgramSite RowEnd levels source { options, entities, rows, comments := head } p
        { options, entities, rows := rows', comments := head }

/-- A row that ends with an inline expression and the semicolon before the place. -/
inductive ClosedEnd (Block : List Char → Rows String String → List Char → Prop) :
    List String → List Char → Rows String String → List Char → List Char → Rows String String → Prop
  | mk {before comments : List String} {s t v r p : List Char} {row : List (Arc String String)}
      {rows : Rows String String} :
      ListOf (ArcItem Block) before s row t → (∃ arc ∈ row.getLast?, arc.isInline = true) →
      Gap t (';' :: p) → Layout p comments v → RowList Block comments v rows r →
      ClosedEnd Block before s (row :: rows) r p (row :: Arc.uncommentFirst rows)

/-- A row that ends with an inline expression without a semicolon. The place is where the next token
stands. -/
inductive OpenEnd (Block : List Char → Rows String String → List Char → Prop) :
    List String → List Char → Rows String String → List Char → List Char → Rows String String → Prop
  | mk {before : List String} {c : Char} {s t r p : List Char} {row : List (Arc String String)}
      {rows : Rows String String} :
      ListOf (ArcItem Block) before s row t → (∃ arc ∈ row.getLast?, arc.isInline = true) →
      Gap t (c :: p) → Solid (c :: p) → RowList Block [] (c :: p) rows r →
      OpenEnd Block before s (row :: rows) r (c :: p) (row :: rows)

/-! ## What a place is part of -/

theorem ListSite.list {Item : List String → List Char → α → List Char → Prop}
    {Site : List String → List Char → α → List Char → List Char → α → Prop}
    (items : ∀ ⦃before s a r p a'⦄, Site before s a r p a' → Item before s a r)
    {before : List String} {s r p : List Char} {as as' : List α}
    (site : ListSite Item Site before s as r p as') : ListOf Item before s as r := by
  induction site with
  | one site => exact .one (items site)
  | first site gap layout list => exact .more (items site) gap layout list
  | later item gap layout _ step => exact .more item gap layout step

section

variable
  {Inside : List Char → Rows String String → List Char → List Char → Rows String String → Prop}
  {RowEnd : List String → List Char → Rows String String → List Char → List Char →
    Rows String String → Prop}

theorem ArcSite.arcItem
    (inside : ∀ ⦃s rows r p rows'⦄, Inside s rows r p rows' → Block s rows r)
    {before : List String} {s r p : List Char} {a a' : Arc String String}
    (site : ArcSite Inside before s a r p a') : ArcItem Block before s a r := by
  cases site with
  | inline head site closed => exact .of_head head (inside site) closed

/-- An arc that a place is in is an inline expression, and remains one. -/
theorem ArcSite.isInline {before : List String} {s r p : List Char} {a a' : Arc String String}
    (site : ArcSite Inside before s a r p a') : a'.isInline = true := by
  cases site with
  | inline => rfl

theorem RowsSite.rowList
    (inside : ∀ ⦃s rows r p rows'⦄, Inside s rows r p rows' → Block s rows r)
    (ends : ∀ ⦃before s rows r p rows'⦄, RowEnd before s rows r p rows' →
      RowList Block before s rows r)
    {before : List String} {s r p : List Char} {rows rows' : Rows String String}
    (site : RowsSite Block Inside RowEnd before s rows r p rows') :
    RowList Block before s rows r := by
  have arcs {before : List String} {s r p : List Char} {row row' : List (Arc String String)}
      (site : ListSite (ArcItem Block) (ArcSite Inside) before s row r p row') :
      ListOf (ArcItem Block) before s row r := site.list fun _ _ _ _ _ _ site => site.arcItem inside
  induction site with
  | here site => exact ends site
  | inClosed site gap layout list => exact .closed (arcs site) gap layout list
  | inUnclosed site last gap list => exact .unclosed (arcs site) last gap list
  | afterClosed row gap layout _ step => exact .closed row gap layout step
  | afterUnclosed row last gap _ step => exact .unclosed row last gap step

/-- Rows start with the same arc, or with an inline expression. -/
theorem RowsSite.opening
    (ends : ∀ ⦃before s rows r p rows'⦄, RowEnd before s rows r p rows' →
      ∃ a, opening? rows' = some a ∧ opening? rows = some a)
    {before : List String} {s r p : List Char} {rows rows' : Rows String String}
    (site : RowsSite Block Inside RowEnd before s rows r p rows') :
    ∃ a, opening? rows' = some a ∧ (opening? rows = some a ∨ a.isInline = true) := by
  have arcs {before : List String} {s r p : List Char} {row row' : List (Arc String String)}
      (site : ListSite (ArcItem Block) (ArcSite Inside) before s row r p row') :
      ∃ a, row'.head? = some a ∧ (row.head? = some a ∨ a.isInline = true) := by
    cases site with
    | one site => exact ⟨_, rfl, .inr site.isInline⟩
    | first site => exact ⟨_, rfl, .inr site.isInline⟩
    | later => exact ⟨_, rfl, .inl rfl⟩
  have listed {before : List String} {s r : List Char} {row : List (Arc String String)}
      (list : ListOf (ArcItem Block) before s row r) : ∃ a, row.head? = some a := by
    cases list <;> exact ⟨_, rfl⟩
  cases site with
  | here site =>
    obtain ⟨a, first, first'⟩ := ends site
    exact ⟨a, first, .inl first'⟩
  | inClosed site => exact arcs site
  | inUnclosed site => exact arcs site
  | afterClosed list =>
    obtain ⟨a, first⟩ := listed list
    exact ⟨a, first, .inl first⟩
  | afterUnclosed list =>
    obtain ⟨a, first⟩ := listed list
    exact ⟨a, first, .inl first⟩

end

/-! ## Places where nothing is lost -/

theorem ListSite.eq_of_same {Item : List String → List Char → α → List Char → Prop}
    {Site : List String → List Char → α → List Char → List Char → α → Prop}
    (same : ∀ ⦃before s a r p a'⦄, Site before s a r p a' → a' = a)
    {before : List String} {s r p : List Char} {as as' : List α}
    (site : ListSite Item Site before s as r p as') : as' = as := by
  induction site with
  | one site => rw [same site]
  | first site => rw [same site]
  | later _ _ _ _ step => rw [step]

section

variable
  {Inside : List Char → Rows String String → List Char → List Char → Rows String String → Prop}
  {RowEnd : List String → List Char → Rows String String → List Char → List Char →
    Rows String String → Prop}

theorem ArcSite.eq_of_same (same : ∀ ⦃s rows r p rows'⦄, Inside s rows r p rows' → rows' = rows)
    ⦃before : List String⦄ ⦃s : List Char⦄ ⦃a : Arc String String⦄ ⦃r p : List Char⦄
    ⦃a' : Arc String String⦄ (site : ArcSite Inside before s a r p a') : a' = a := by
  cases site with
  | inline _ site => rw [same site]

theorem RowsSite.eq_of_same (same : ∀ ⦃s rows r p rows'⦄, Inside s rows r p rows' → rows' = rows)
    (same' : ∀ ⦃before s rows r p rows'⦄, RowEnd before s rows r p rows' → rows' = rows)
    {before : List String} {s r p : List Char} {rows rows' : Rows String String}
    (site : RowsSite Block Inside RowEnd before s rows r p rows') : rows' = rows := by
  induction site with
  | here site => exact same' site
  | inClosed site => rw [site.eq_of_same (ArcSite.eq_of_same same)]
  | inUnclosed site => rw [site.eq_of_same (ArcSite.eq_of_same same)]
  | afterClosed _ _ _ _ step => rw [step]
  | afterUnclosed _ _ _ _ step => rw [step]

end

section

variable {RowEnd : (List Char → Rows String String → List Char → Prop) → List String →
    List Char → Rows String String → List Char → List Char → Rows String String → Prop}
  (same : ∀ ⦃levels before s rows r p rows'⦄,
    RowEnd (Grammar.Block levels) before s rows r p rows' → rows' = rows)

include same

theorem BlockSite.eq_of_same {levels : Nat} ⦃s : List Char⦄ ⦃rows : Rows String String⦄
    ⦃r p : List Char⦄ ⦃rows' : Rows String String⦄
    (site : BlockSite RowEnd levels s rows r p rows') : rows' = rows := by
  induction levels generalizing s rows r p rows' with
  | zero => exact site.elim
  | succ levels step =>
    obtain ⟨comments, t, layout, site⟩ := site
    exact site.eq_of_same step (fun _ _ _ _ _ _ site => same site)

theorem ProgramSite.eq_of_same {levels : Nat} {source p : List Char} {c c' : Chart}
    (site : ProgramSite RowEnd levels source c p c') : c' = c := by
  cases site with
  | mk _ _ _ _ _ _ site =>
    rw [site.eq_of_same (BlockSite.eq_of_same same) (fun _ _ _ _ _ _ site => same site)]

end

/-! ## Texts with a semicolon less or more -/

/-- Behind a closing brace and layout, another separator stands before the place. -/
inductive Edit (sep sep' place : List Char) : List Char → List Char → Prop
  | mk (layout : List Char) :
      Edit sep sep' place ('\x7d' :: (layout ++ (sep ++ place)))
        ('\x7d' :: (layout ++ (sep' ++ place)))

theorem Edit.exchange {sep sep' p z z' : List Char} (edit : Edit sep sep' p z z') :
    Exchange z z' := by
  obtain ⟨layout⟩ := edit
  exact .brace _ _

theorem Edit.head {sep sep' p z z' : List Char} (edit : Edit sep sep' p z z') (x : List Char) :
    (x ++ z').head? = (x ++ z).head? := by
  obtain ⟨layout⟩ := edit
  cases x <;> rfl

/-- With the other separator before the place the text means the other thing. -/
def Carries (sep sep' : List Char) (Site : List Char → α → List Char → List Char → α → Prop)
    (R : List Char → α → List Char → Prop) : Prop :=
  ∀ ⦃s a r p a'⦄, Site s a r p a' →
    ∃ x z z', s = x ++ z ∧ Edit sep sep' p z z' ∧ R (x ++ z') a' r

section

variable {sep sep' : List Char}

theorem listSite_carries {Item : List String → List Char → α → List Char → Prop}
    {Site : List String → List Char → α → List Char → List Char → α → Prop}
    (items : ∀ before, Carries sep sep' (Site before) (Item before))
    (stays : ∀ {z z'}, Exchange z z' → ∀ before a, Exchanges z z' (Item before · a ·))
    (before : List String) : Carries sep sep' (ListSite Item Site before) (ListOf Item before) := by
  intro s as r p as' site
  induction site with
  | one site =>
    obtain ⟨x, z, z', text, edit, item⟩ := items _ site
    exact ⟨x, z, z', text, edit, .one item⟩
  | first site gap layout list =>
    obtain ⟨x, z, z', text, edit, item⟩ := items _ site
    exact ⟨x, z, z', text, edit, .more item gap layout list⟩
  | later item gap layout _ step =>
    obtain ⟨v, z, z', rfl, edit, list⟩ := step
    obtain ⟨u, rfl, layout'⟩ := layout_exchanges edit.exchange _ layout
    obtain ⟨t, rfl, gap'⟩ := gap_exchanges edit.exchange (y := ',' :: u) gap
    obtain ⟨x, text, item'⟩ := stays edit.exchange _ _ item
    exact ⟨x, z, z', text, edit, .more item' gap' layout' list⟩

theorem listSite_last {Item : List String → List Char → α → List Char → Prop}
    {Site : List String → List Char → α → List Char → List Char → α → Prop} {P : α → Prop}
    (items : ∀ ⦃before s a r p a'⦄, Site before s a r p a' → P a → P a') {before : List String}
    {s r p : List Char} {as as' : List α} (site : ListSite Item Site before s as r p as')
    (last : ∃ a ∈ as.getLast?, P a) : ∃ a ∈ as'.getLast?, P a := by
  induction site with
  | one site => simpa using items site (by simpa using last)
  | @first _ _ _ _ _ _ _ _ a a' as site _ _ list =>
    cases as with
    | nil => cases list
    | cons b as => simpa using last
  | @later _ _ _ _ _ _ _ _ a as as' item _ _ rest step =>
    cases as with
    | nil => cases rest
    | cons b as =>
      cases as' with
      | nil => cases rest
      | cons b' as' => simpa using step (by simpa using last)

section

variable {Block : List Char → Rows String String → List Char → Prop}
  {Inside : List Char → Rows String String → List Char → List Char → Rows String String → Prop}

theorem arcSite_carries (inside : Carries sep sep' Inside Block) (before : List String) :
    Carries sep sep' (ArcSite Inside before) (ArcItem Block before) := by
  intro s a r p a' site
  cases site with
  | inline head site closed =>
    obtain ⟨u, z, z', rfl, edit, block⟩ := inside site
    obtain ⟨x, text, head'⟩ := inlineHead_exchanges edit.exchange _ _ _ _ head
    exact ⟨x, z, z', text, edit, .of_head head' block closed⟩

variable (stays : ∀ {z z'}, Exchange z z' → ∀ rows, Exchanges z z' (Block · rows ·))
  (inside : Carries sep sep' Inside Block)

include stays inside

theorem rowsSite_carries {RowEnd : List String → List Char → Rows String String → List Char →
      List Char → Rows String String → Prop}
    (ends : ∀ before, Carries sep sep' (RowEnd before) (RowList Block before))
    (before : List String) :
    Carries sep sep' (RowsSite Block Inside RowEnd before) (RowList Block before) := by
  have arcs := listSite_carries (arcSite_carries inside) fun exchange =>
    arcItem_exchanges exchange (stays exchange)
  intro s rows r p rows' site
  induction site with
  | here site => exact ends _ site
  | inClosed site gap layout list =>
    obtain ⟨x, z, z', text, edit, row⟩ := arcs _ site
    exact ⟨x, z, z', text, edit, .closed row gap layout list⟩
  | inUnclosed site last gap list =>
    obtain ⟨x, z, z', text, edit, row⟩ := arcs _ site
    have last' := listSite_last (P := (·.isInline = true))
      (fun _ _ _ _ _ _ site _ => site.isInline) site last
    exact ⟨x, z, z', text, edit, .unclosed row last' gap list⟩
  | afterClosed row gap layout _ step =>
    obtain ⟨v, z, z', rfl, edit, list⟩ := step
    obtain ⟨u, rfl, layout'⟩ := layout_exchanges edit.exchange _ layout
    obtain ⟨t, rfl, gap'⟩ := gap_exchanges edit.exchange (y := ';' :: u) gap
    obtain ⟨x, text, row'⟩ := row_exchanges edit.exchange (stays edit.exchange) _ _ row
    exact ⟨x, z, z', text, edit, .closed row' gap' layout' list⟩
  | afterUnclosed row last gap _ step =>
    obtain ⟨u, z, z', rfl, edit, list⟩ := step
    obtain ⟨t, rfl, gap'⟩ := gap_exchanges edit.exchange gap
    obtain ⟨x, text, row'⟩ := row_exchanges edit.exchange (stays edit.exchange) _ _ row
    exact ⟨x, z, z', text, edit, .unclosed row' last gap' list⟩

end

/-! ## The two kinds of row ends -/

section

variable {Block : List Char → Rows String String → List Char → Prop}
  (stays : ∀ {z z'}, Exchange z z' → ∀ rows, Exchanges z z' (Block · rows ·))

include stays

/-- What stands behind an inline expression, behind its closing brace, does not matter to it. -/
theorem ArcItem.closing {before : List String} {s t : List Char} {a : Arc String String}
    (item : ArcItem Block before s a t) (inline : a.isInline = true) (t' : List Char) :
    ∃ x, s = x ++ '\x7d' :: t ∧ ArcItem Block before (x ++ '\x7d' :: t') a t' := by
  cases a with
  | inline kind source target rows attrs comments =>
    obtain ⟨rfl, u, b, head, inside, closed⟩ := item.head
    have exchange := Exchange.brace t t'
    obtain ⟨b, rfl, closed'⟩ := gap_exchanges exchange (y := []) closed
    obtain ⟨u, rfl, inside'⟩ := stays exchange _ inside
    obtain ⟨x, text, head'⟩ := inlineHead_exchanges exchange _ _ _ _ head
    exact ⟨x, text, .of_head head' inside' closed'⟩
  | _ => cases inline

theorem row_closing {before : List String} {s t : List Char} {row : List (Arc String String)}
    (list : ListOf (ArcItem Block) before s row t)
    (last : ∃ arc ∈ row.getLast?, arc.isInline = true) (t' : List Char) :
    ∃ x, s = x ++ '\x7d' :: t ∧ ListOf (ArcItem Block) before (x ++ '\x7d' :: t') row t' := by
  induction list with
  | one item =>
    obtain ⟨x, text, item'⟩ := item.closing stays (by simpa using last) t'
    exact ⟨x, text, .one item'⟩
  | @more _ _ _ _ _ v t _ as item gap layout list step =>
    have last' : ∃ arc ∈ as.getLast?, arc.isInline = true := by
      cases as with
      | nil => cases list
      | cons b as => simpa using last
    obtain ⟨v, rfl, list'⟩ := step last'
    have exchange := Exchange.brace t t'
    obtain ⟨u, rfl, layout'⟩ := layout_exchanges exchange _ layout
    obtain ⟨y, rfl, gap'⟩ := gap_exchanges exchange (y := ',' :: u) gap
    obtain ⟨x, text, item'⟩ := arcItem_exchanges exchange (stays exchange) _ _ item
    exact ⟨x, text, .more item' gap' layout' list'⟩

/-- Without its semicolon the row ends all the same, and the comments behind it are lost. -/
theorem closedEnd_carries (before : List String) :
    Carries [';'] [] (ClosedEnd Block before) (RowList Block before) := by
  rintro s rows r p rows' ⟨row, last, gap, layout, list⟩
  obtain ⟨comments, layout'⟩ := gap
  have noLine : EndsLine (';' :: p) → EndsLine p := fun ends => absurd (ends _ rfl) (by decide)
  obtain ⟨y, rfl, gap'⟩ := layout_exchanges' (y := []) noLine comments layout'
  obtain ⟨x, text, row'⟩ := row_closing stays row last (y ++ p)
  exact ⟨x, _, _, text, ⟨y⟩, .unclosed row' last (Gap.trans ⟨_, gap'⟩ layout.gap)
    list.uncommentFirst⟩

/-- With a semicolon before the next token the row ends where it did. -/
theorem openEnd_carries (before : List String) :
    Carries [] [';'] (OpenEnd Block before) (RowList Block before) := by
  intro s rows r p rows' site
  cases site with
  | @mk c _ _ _ p _ _ row last gap solid list =>
    obtain ⟨comments, layout⟩ := gap
    have noLine : EndsLine (c :: p) → EndsLine (';' :: c :: p) := by
      intro ends
      rcases ends c rfl with rfl | rfl <;> exact absurd solid.head (by decide)
    obtain ⟨y, rfl, layout'⟩ := layout_exchanges' (y := []) noLine comments layout
    obtain ⟨x, text, row'⟩ := row_closing stays row last (y ++ ';' :: c :: p)
    exact ⟨x, _, _, text, ⟨y⟩, .closed row' ⟨_, layout'⟩ .done list⟩

end

/-- A kind of row ends, and what another separator there does. -/
structure EndsRow (sep sep' : List Char) (Block : List Char → Rows String String → List Char → Prop)
    (RowEnd : List String → List Char → Rows String String → List Char → List Char →
      Rows String String → Prop) : Prop where
  rowList : ∀ ⦃before s rows r p rows'⦄, RowEnd before s rows r p rows' →
    RowList Block before s rows r
  opening : ∀ ⦃before s rows r p rows'⦄, RowEnd before s rows r p rows' →
    ∃ a, opening? rows' = some a ∧ opening? rows = some a
  carries : ∀ before, Carries sep sep' (RowEnd before) (RowList Block before)

theorem exists_opening {row : List (Arc String String)}
    (last : ∃ arc ∈ row.getLast?, arc.isInline = true) (rows rows' : Rows String String) :
    ∃ a, opening? (row :: rows') = some a ∧ opening? (row :: rows) = some a := by
  cases row with
  | nil =>
    obtain ⟨arc, ⟨⟩, -⟩ := last
  | cons a row => exact ⟨a, rfl, rfl⟩

theorem closedEnd_endsRow (levels : Nat) :
    EndsRow [';'] [] (Grammar.Block levels) (ClosedEnd (Grammar.Block levels)) where
  rowList := by
    rintro before s rows r p rows' ⟨row, last, gap, layout, list⟩
    exact .closed row gap layout list
  opening := by
    rintro before s rows r p rows' ⟨row, last, gap, layout, list⟩
    exact exists_opening last _ _
  carries := closedEnd_carries fun exchange => block_exchanges exchange levels

theorem openEnd_endsRow (levels : Nat) :
    EndsRow [] [';'] (Grammar.Block levels) (OpenEnd (Grammar.Block levels)) where
  rowList := by
    rintro before s rows r p rows' ⟨row, last, gap, -, list⟩
    exact .unclosed row last gap list
  opening := by
    rintro before s rows r p rows' ⟨row, last, gap, -, list⟩
    exact exists_opening last _ _
  carries := openEnd_carries fun exchange => block_exchanges exchange levels

/-! ## Charts -/

section

variable {RowEnd : (List Char → Rows String String → List Char → Prop) → List String →
    List Char → Rows String String → List Char → List Char → Rows String String → Prop}
  (ends : ∀ levels, EndsRow sep sep' (Grammar.Block levels) (RowEnd (Grammar.Block levels)))
  {levels : Nat}

include ends

theorem BlockSite.block ⦃s : List Char⦄ ⦃rows : Rows String String⦄ ⦃r p : List Char⦄
    ⦃rows' : Rows String String⦄ (site : BlockSite RowEnd levels s rows r p rows') :
    Grammar.Block levels s rows r := by
  induction levels generalizing s rows r p rows' with
  | zero => exact site.elim
  | succ levels step =>
    obtain ⟨comments, t, layout, site⟩ := site
    exact ⟨comments, t, layout, site.rowList step (ends levels).rowList⟩

theorem blockSite_carries (levels : Nat) :
    Carries sep sep' (BlockSite RowEnd levels) (Grammar.Block levels) := by
  induction levels with
  | zero => exact fun s rows r p rows' site => site.elim
  | succ levels step =>
    rintro s rows r p rows' ⟨comments, t, layout, site⟩
    obtain ⟨u, z, z', rfl, edit, list⟩ := rowsSite_carries
      (fun exchange => block_exchanges exchange levels) step (ends levels).carries _ site
    obtain ⟨x, text, layout'⟩ := layout_exchanges edit.exchange _ layout
    exact ⟨x, z, z', text, edit, comments, _, layout', list⟩

theorem ProgramSite.program {source p : List Char} {c c' : Chart}
    (site : ProgramSite RowEnd levels source c p c') : Program levels source c := by
  obtain ⟨layout, keyword, opened, layout', options, entities, site, closed, gap⟩ := site
  exact .mk layout keyword opened layout'
    (.mk options entities (site.rowList (BlockSite.block ends) (ends levels).rowList)) closed gap

/-- With the other separator the text means the other chart, and opens on an option only if it did
so before. -/
theorem programSite_carries {source p : List Char} {c c' : Chart}
    (site : ProgramSite RowEnd levels source c p c') :
    ∃ x z z', source = x ++ z ∧ Edit sep sep' p z z' ∧ Program levels (x ++ z') c' ∧
      c'.options = c.options ∧
      (c.options = {} → OpensWithAssignment (x ++ z') → OpensWithAssignment source) := by
  obtain ⟨layout, keyword, opened, layout', options, entities, site, closed, gap⟩ := site
  have body := Body.mk options entities (site.rowList (BlockSite.block ends) (ends levels).rowList)
  obtain ⟨a, first, first'⟩ := site.opening (ends levels).opening
  obtain ⟨x, z, z', rfl, edit, list'⟩ := rowsSite_carries
    (fun exchange => block_exchanges exchange levels) (blockSite_carries ends levels)
    (ends levels).carries _ site
  obtain ⟨w, rfl, entities'⟩ := entitiesPart_exchanges edit.exchange _ _ _ entities
  obtain ⟨v, rfl, options'⟩ := optionsPart_exchanges edit.exchange _ _ _ options
  obtain ⟨u, rfl, inside⟩ := layout_exchanges edit.exchange _ layout'
  obtain ⟨t, rfl, opened'⟩ := gap_exchanges edit.exchange (y := '\x7b' :: u) opened
  obtain ⟨s, rfl, keyword'⟩ := keyword_exchanges edit.exchange _ keyword
  obtain ⟨front, rfl, head⟩ := layout_exchanges edit.exchange _ layout
  have body' := Body.mk options' entities' list'
  refine ⟨front, z, z', rfl, edit, .mk head keyword' opened' inside body' closed gap, rfl, ?_⟩
  rw [opens_iff layout keyword opened layout' body closed,
    opens_iff head keyword' opened' inside body' closed]
  intro unset
  refine body.assigns_of_opening body' closed unset unset rfl (fun b first'' => ?_) (edit.head v)
  obtain rfl := Option.some.inj (first.symm.trans first'')
  exact first'

end

end

end Grammar

end SeqChart
