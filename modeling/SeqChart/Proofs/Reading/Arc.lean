import SeqChart.Proofs.Reading.Head
import SeqChart.Reader.Arc
/-!
Reading arcs and rows. Main statement, `admits_inside`: what a block is read with takes what the
grammar has between braces, level by level.
-/

namespace SeqChart

open Grammar

variable {Block : List Char → Rows String String → List Char → Prop}

/-! ## How arcs start -/

namespace Grammar

/-- What an arc may start with. -/
def startsArc (c : Char) : Bool := ['.', '-', '|', '*', '"'].contains c || Text.isWord c

theorem isPlain_of_startsArc {c : Char} (starts : startsArc c = true) : isPlain c = true := by
  rw [startsArc, Bool.or_eq_true] at starts
  rcases starts with mark | letter
  · have among : c = '.' ∨ c = '-' ∨ c = '|' ∨ c = '*' ∨ c = '"' := by simpa using mark
    rcases among with rfl | rfl | rfl | rfl | rfl <;> decide
  · exact isPlain_of_isWord letter

theorem End.starts {s r : List Char} {n : String} (ended : End s n r) :
    ∃ c rest, s = c :: rest ∧ (c = '*' ∨ c = '"' ∨ Text.isWord c = true) := by
  cases ended with
  | all => exact ⟨'*', r, rfl, .inl rfl⟩
  | name named =>
    obtain ⟨c, rest, rfl, first⟩ := named.head
    exact ⟨c, rest, rfl, .inr first⟩

theorem startsArc_of_end {c : Char} (first : c = '*' ∨ c = '"' ∨ Text.isWord c = true) :
    startsArc c = true := by
  rcases first with rfl | rfl | letter
  · rfl
  · rfl
  · rw [startsArc, letter, Bool.or_true]

theorem ArcItem.starts {before : List String} {s r : List Char} {a : Arc String String}
    (item : ArcItem Block before s a r) : ∃ c rest, s = c :: rest ∧ startsArc c = true := by
  have named {s t : List Char} {n : String} (ended : End s n t) :
      ∃ c rest, s = c :: rest ∧ startsArc c = true := by
    obtain ⟨c, rest, rfl, first⟩ := ended.starts
    exact ⟨c, rest, rfl, startsArc_of_end first⟩
  cases item with
  | @empty _ _ kind _ _ => cases kind <;> exact ⟨_, _, rfl, rfl⟩
  | message source => exact named source
  | box source => exact named (.name source)
  | inline source => exact named (.name source)

theorem ArcItem.solid ⦃before : List String⦄ ⦃s : List Char⦄ ⦃a : Arc String String⦄
    ⦃r : List Char⦄ (item : ArcItem Block before s a r) : Solid s := by
  obtain ⟨c, rest, rfl, starts⟩ := item.starts
  exact solid_cons (isPlain_of_startsArc starts)

/-- An arc stands where rows do. -/
theorem RowList.starts {before : List String} {s r : List Char} {row : List (Arc String String)}
    {rows : Rows String String} (list : RowList Block before s (row :: rows) r) :
    ∃ a t, ArcItem Block before s a t := by
  cases list with
  | closed list _ _ _ => exact list.first
  | unclosed list _ _ _ => exact list.first

end Grammar

namespace Reader

/-! ## Arcs -/

/-- What the rows of a block are read with takes what may stand between its braces. -/
structure Admits (Block : List Char → Rows String String → List Char → Prop)
    (inner : Option Body) : Prop where
  sound : ∀ {body s rows r}, inner = some body → body.read s = .ok (rows, r) → Block s rows r
  complete : ∀ {s rows t r}, Block s rows t → Gap t r → Solid r → atEnd r = true →
    ∃ body, inner = some body ∧ body.read s = .ok (rows, r)

def blockToken : BoxKind ⊕ InlineKind → String := Sum.elim BoxKind.token InlineKind.token

theorem blockToken_ne : ∀ kind ∈ blockKinds, blockToken kind ≠ "" := by decide

theorem mem_blockKinds (kind : BoxKind ⊕ InlineKind) : kind ∈ blockKinds := by
  rcases kind with kind | kind
  · exact List.mem_append_left _ (List.mem_map_of_mem (BoxKind.mem_all kind))
  · exact List.mem_append_right _ (List.mem_map_of_mem (InlineKind.mem_all kind))

theorem keyword?_block {kind : BoxKind ⊕ InlineKind} {s r : List Char}
    (keyword : Keyword (blockToken kind) s r) :
    keyword? blockToken blockKinds s = .ok (some kind, r) := by
  have apart : ∀ a ∈ blockKinds, ∀ b ∈ blockKinds, blockToken b = blockToken a → b = a := by
    decide
  exact keyword?_of_keyword (apart kind (mem_blockKinds kind)) (mem_blockKinds kind) keyword

theorem solid_brace (r : List Char) : Solid ("\x7b".toList ++ r) := solid_cons rfl

theorem solid_brace' (r : List Char) : Solid ("\x7d".toList ++ r) := solid_cons rfl

theorem expect_closing (r : List Char) : expect "\x7d" ('\x7d' :: r) = .ok ((), r) :=
  (expect_eq_ok_iff solid_brace').2 (Gap.refl _)

section

variable {inner : Option Body} {limit : Int} {before : List String}

theorem block_sound (admits : Admits Block inner) {s t u v r : List Char}
    {kind : BoxKind ⊕ InlineKind} {source : String} {a : Arc String String}
    (named : Name s source t) (other : source ≠ broadcast) (gap : Gap t u)
    (keyword : Keyword (blockToken kind) u v)
    (read : block limit inner kind source before v = .ok (a, r)) :
    ∃ w, ArcItem Block before s a w ∧ Gap w r := by
  rw [block, bind_eq_ok_iff] at read
  obtain ⟨target, w, taken, read⟩ := read
  obtain ⟨x, gap', named'⟩ := name_eq_ok_iff.1 taken
  obtain ⟨attrs, y, taken', read⟩ := bind_eq_ok_iff.1 read
  obtain ⟨z, stands, gap''⟩ := attributes_sound taken'
  cases kind with
  | inl kind =>
    obtain ⟨rfl, rfl⟩ := pure_eq_ok_iff.1 read
    exact ⟨z, .box named other gap keyword gap' named' stands, gap''⟩
  | inr kind =>
    cases inner with
    | none => cases read
    | some body =>
      obtain ⟨_, b, opened, read⟩ := bind_eq_ok_iff.1 read
      obtain ⟨rows, b', inside, read⟩ := bind_eq_ok_iff.1 read
      obtain ⟨_, b'', closed, read⟩ := bind_eq_ok_iff.1 read
      obtain ⟨rfl, rfl⟩ := pure_eq_ok_iff.1 read
      have opened := gap''.trans ((expect_eq_ok_iff solid_brace).1 opened)
      have closed := (expect_eq_ok_iff solid_brace').1 closed
      exact ⟨b'', .inline named other gap keyword gap' named' stands opened
        (admits.sound rfl inside) closed, Gap.refl b''⟩

theorem arcFrom_sound (admits : Admits Block inner) {place s t r : List Char} {source : String}
    {a : Arc String String} (started : End s source t)
    (read : arcFrom limit inner place source before t = .ok (a, r)) :
    ∃ u, ArcItem Block before s a u ∧ Gap u r := by
  rw [arcFrom, bind_eq_ok_iff] at read
  obtain ⟨_, u, skipped, read⟩ := read
  have gap := (skipLayout_eq_ok_iff.1 skipped).1
  obtain ⟨operator, v, taken, rest⟩ := bind_eq_ok_iff.1 read
  cases operator with
  | some kind =>
    have operator := acceptAny_operator_iff.1 taken
    obtain ⟨target, w, taken, rest⟩ := bind_eq_ok_iff.1 rest
    obtain ⟨x, gap', ended⟩ := endpoint_eq_ok_iff.1 taken
    obtain ⟨attrs, y, taken', rest⟩ := bind_eq_ok_iff.1 rest
    obtain ⟨rfl, rfl⟩ := pure_eq_ok_iff.1 rest
    obtain ⟨z, stands, gap''⟩ := attributes_sound taken'
    exact ⟨z, .message started gap operator gap' ended stands, gap''⟩
  | none =>
    obtain ⟨rfl, -⟩ := acceptAny_eq_none taken
    obtain ⟨keyword, w, taken', last⟩ := bind_eq_ok_iff.1 rest
    cases keyword with
    | none => cases last
    | some kind =>
      have keyword := (keyword_of_keyword? blockToken_ne taken').2
      dsimp only at last
      split at last
      · cases last
      · rename_i other
        cases started with
        | all => exact absurd rfl other
        | name named => exact block_sound admits named other gap keyword last

theorem arc_sound (admits : Admits Block inner) {s r : List Char} {a : Arc String String}
    (read : arc limit inner before s = .ok (a, r)) :
    ∃ t u, Gap s t ∧ ArcItem Block before t a u ∧ Gap u r := by
  rw [arc, bind_eq_ok_iff] at read
  obtain ⟨_, t, skipped, read⟩ := read
  obtain ⟨gap, solid⟩ := skipLayout_eq_ok_iff.1 skipped
  obtain ⟨kind, u, taken, rest⟩ := bind_eq_ok_iff.1 read
  cases kind with
  | some kind =>
    obtain ⟨attrs, v, taken', rest⟩ := bind_eq_ok_iff.1 rest
    obtain ⟨rfl, rfl⟩ := pure_eq_ok_iff.1 rest
    obtain ⟨w, stands, gap'⟩ := attributes_sound taken'
    refine ⟨t, w, gap, ?_, gap'⟩
    rw [acceptAny_eq_some taken]
    exact .empty stands
  | none =>
    obtain ⟨rfl, -⟩ := acceptAny_eq_none taken
    dsimp only at rest
    rw [get_bind] at rest
    obtain ⟨source, v, taken', rest⟩ := bind_eq_ok_iff.1 rest
    obtain ⟨w, gap', started⟩ := endpoint_eq_ok_iff.1 taken'
    -- No layout is left in front of the first end.
    obtain rfl := Gap.unique gap' started.solid (Gap.refl u) solid
    obtain ⟨x, item, gap''⟩ := arcFrom_sound admits started rest
    exact ⟨w, x, gap, item, gap''⟩

theorem acceptAny_empty_of_end {s t : List Char} {n : String} (ended : End s n t) :
    acceptAny EmptyKind.token EmptyKind.all s = .ok (none, s) := by
  obtain ⟨c, rest, rfl, first⟩ := ended.starts
  refine acceptAny_of_absent fun kind _ => ?_
  have other {d : Char} (no : d ≠ '*' ∧ d ≠ '"' ∧ Text.isWord d = false) : c ≠ d := by
    rintro rfl
    rcases first with star | quote | letter
    · exact no.1 star
    · exact no.2.1 quote
    · exact absurd letter (by simp [no.2.2])
  rintro ⟨_, same⟩
  cases kind <;> exact other (by decide) (List.cons.inj same).1.symm

theorem acceptAny_operator_of_word {s w r : List Char} (word : Word s w r) (other : w ≠ ['x']) :
    acceptAny ArcKind.token ArcKind.longestFirst s = .ok (none, s) := by
  rcases acceptAny_cases ArcKind.token ArcKind.longestFirst s with
    ⟨none, -⟩ | ⟨_, operator, _, t, -, -, -, taken⟩
  · exact none
  · exact absurd ((acceptAny_operator_iff.1 taken).word_eq word) other

theorem acceptAny_operator_of_keyword {kind : BoxKind ⊕ InlineKind} {s r : List Char}
    (keyword : Keyword (blockToken kind) s r) :
    acceptAny ArcKind.token ArcKind.longestFirst s = .ok (none, s) := by
  obtain ⟨w, word, lowered⟩ := keyword
  refine acceptAny_operator_of_word word ?_
  rintro rfl
  have other : ∀ kind ∈ blockKinds, Text.lowerText "x" ≠ blockToken kind := by decide
  exact other kind (mem_blockKinds kind) lowered

/-- Behind its first end, an arc is read on. -/
theorem arc_of_end {s t u : List Char} {source : String} (gap : Gap s t) (ended : End t source u) :
    arc limit inner before s = arcFrom limit inner t source before u := by
  rw [arc, bind_of_ok (skipLayout_of_gap gap ended.solid),
    bind_of_ok (acceptAny_empty_of_end ended)]
  dsimp only
  rw [get_bind, bind_of_ok (endpoint_eq_ok_iff.2 ⟨_, Gap.refl _, ended⟩)]

/-- An arc with a keyword is read as one. -/
theorem arc_of_keyword (kind : BoxKind ⊕ InlineKind) {s t u v w : List Char} {source : String}
    (gap : Gap s t) (named : Name t source u) (other : source ≠ broadcast) (gap' : Gap u v)
    (keyword : Keyword (blockToken kind) v w) :
    arc limit inner before s = block limit inner kind source before w := by
  rw [arc_of_end gap (.name named), arcFrom, bind_of_ok (skipLayout_of_gap gap' keyword.solid),
    bind_of_ok (acceptAny_operator_of_keyword keyword)]
  dsimp only
  rw [bind_of_ok (show keyword? (Sum.elim BoxKind.token InlineKind.token) blockKinds v = _ from
    keyword?_block keyword)]
  dsimp only
  rw [if_neg other]

theorem arc_complete (admits : Admits Block inner) {s t u r : List Char} {a : Arc String String}
    (gap : Gap s t) (item : ArcItem Block before t a u) (after : Gap u r) (solid : Solid r)
    (noBracket : r.head? ≠ some '[') :
    ∃ v, arc limit inner before s = .ok (a, v) ∧ Gap v r := by
  have starts := skipLayout_of_gap gap item.solid
  cases item with
  | empty stands =>
    obtain ⟨v, taken, after'⟩ := attributes_complete stands after solid noBracket
    refine ⟨v, ?_, after'⟩
    rw [arc, bind_of_ok starts, bind_of_ok (acceptAny_empty _ _)]
    dsimp only
    rw [bind_of_ok taken]
    rfl
  | message ended gap' operator gap'' ended' stands =>
    obtain ⟨v, taken, after'⟩ := attributes_complete stands after solid noBracket
    refine ⟨v, ?_, after'⟩
    rw [arc_of_end gap ended, arcFrom, bind_of_ok (skipLayout_of_gap gap' operator.solid),
      bind_of_ok (acceptAny_operator_iff.2 operator)]
    dsimp only
    rw [bind_of_ok (endpoint_eq_ok_iff.2 ⟨_, gap'', ended'⟩), bind_of_ok taken]
    rfl
  | box named other gap' keyword gap'' named' stands =>
    obtain ⟨v, taken, after'⟩ := attributes_complete stands after solid noBracket
    refine ⟨v, ?_, after'⟩
    rw [arc_of_keyword (.inl _) gap named other gap' keyword, block,
      bind_of_ok (name_eq_ok_iff.2 ⟨_, gap'', named'⟩), bind_of_ok taken]
    rfl
  | inline named other gap' keyword gap'' named' stands opened inside closed =>
    obtain ⟨v, taken, after'⟩ := attributes_complete stands opened (solid_brace _) (by simp)
    obtain ⟨body, rfl, read⟩ := admits.complete inside closed (solid_brace' _) rfl
    refine ⟨_, ?_, after⟩
    rw [arc_of_keyword (.inr _) gap named other gap' keyword, block,
      bind_of_ok (name_eq_ok_iff.2 ⟨_, gap'', named'⟩), bind_of_ok taken]
    dsimp only
    rw [bind_of_ok ((expect_eq_ok_iff solid_brace).2 after'), bind_of_ok read,
      bind_of_ok (expect_closing u)]
    rfl

end

theorem arc_recognises {inner : Option Body} (admits : Admits Block inner) (limit : Int) :
    Recognises (ArcItem Block) (arc limit inner) where
  solid := ArcItem.solid
  sound := arc_sound admits
  complete := arc_complete admits

/-! ## Rows -/

section

variable {inner : Option Body} {limit : Int}

/-- What is left of a row that was read is where the next one may start. -/
theorem rowAndNext_sound (admits : Admits Block inner) {before : List String} {s r : List Char}
    {row : List (Arc String String)} {next? : Option (List String)} (solid : Solid s)
    (read : rowAndNext limit inner before s = .ok ((row, next?), r)) :
    Solid r ∧ ∃ next, next? = (if atEnd r then none else some next) ∧
      RowAhead Block before s row next r := by
  rw [rowAndNext, bind_eq_ok_iff] at read
  obtain ⟨arcs, t, listed, read⟩ := read
  obtain ⟨texts, u, layout, read⟩ := bind_eq_ok_iff.1 read
  rw [get_bind] at read
  obtain ⟨same, rfl⟩ := pure_eq_ok_iff.1 read
  obtain ⟨rfl, rfl⟩ := Prod.mk.inj same
  obtain ⟨layout, solid'⟩ := comments_eq_ok_iff.1 layout
  refine ⟨solid', texts, rfl, ?_⟩
  obtain ⟨x, y, gap, list, after⟩ := series_sound (arc_recognises admits limit) _ listed
  obtain rfl := Gap.unique gap (list.solid ArcItem.solid) (Gap.refl s) solid
  rcases after with closed | ⟨closes, after, solid''⟩
  · exact .closed list closed layout
  · -- The layout behind a row without a semicolon was taken with its last arc.
    obtain rfl := Gap.unique layout.gap solid' (Gap.refl t) solid''
    have none : texts = [] := by
      have read := (comments_of_solid solid').symm.trans (comments_eq_ok_iff.2 ⟨layout, solid'⟩)
      exact (Prod.mk.inj (Except.ok.inj read)).1.symm
    subst none
    exact .unclosed list closes after

theorem rows_sound (admits : Admits Block inner) {before : List String} {s r : List Char}
    {all : Rows String String} (solid : Solid s) (read : rows limit inner before s = .ok (all, r)) :
    RowList Block before s all r ∧ Solid r ∧ atEnd r = true := by
  rw [rows, get_bind] at read
  split at read
  · rename_i ends
    obtain ⟨rfl, rfl⟩ := pure_eq_ok_iff.1 read
    exact ⟨.nil, solid, ends⟩
  · rename_i goesOn
    clear goesOn
    fun_induction chain (rowAndNext limit inner) (advances_rowAndNext limit inner) before s
      generalizing all r with
    | case1 => cases read
    | case2 before s row t taken =>
      obtain ⟨rfl, rfl⟩ := Prod.mk.inj (Except.ok.inj read)
      obtain ⟨solid', next, last, ahead⟩ := rowAndNext_sound admits solid taken
      refine ⟨ahead.rowList .nil, solid', ?_⟩
      by_contra goesOn
      rw [if_neg goesOn] at last
      cases last
    | case3 before s row next t taken _ step =>
      cases outcome : chain (rowAndNext limit inner) (advances_rowAndNext limit inner) next t with
      | error => rw [outcome] at read; cases read
      | ok result =>
        obtain ⟨rest, u⟩ := result
        rw [outcome] at read
        obtain ⟨rfl, rfl⟩ := Prod.mk.inj (Except.ok.inj read)
        obtain ⟨solid', next', last, ahead⟩ := rowAndNext_sound admits solid taken
        split at last
        · cases last
        · cases last
          obtain ⟨list, ended⟩ := step solid' outcome
          exact ⟨ahead.rowList list, ended⟩

theorem atEnd_of_rows {before : List String} {s r : List Char} {row : List (Arc String String)}
    {rows : Rows String String} (list : RowList Block before s (row :: rows) r) :
    Solid s ∧ atEnd s = false := by
  obtain ⟨a, t, item⟩ := list.starts
  refine ⟨item.solid, ?_⟩
  obtain ⟨c, rest, rfl, starts⟩ := item.starts
  have : c ≠ '\x7d' := by
    rintro rfl
    exact absurd starts (by decide)
  simpa [atEnd] using this

/-- After a row, reading goes on with the next one behind layout, or stops where none stands. -/
theorem rowAndNext_complete {before : List String} {s t u v r : List Char}
    {row : List (Arc String String)} {comments : List String} {more : Rows String String}
    (taken : Reader.row limit inner before s = .ok (row, t)) (layout : Layout t comments v)
    (list : RowList Block comments v more u) (gap : Gap u r) (solid : Solid r)
    (ends : atEnd r = true) :
    rowAndNext limit inner before s =
      if more = [] then .ok ((row, none), r) else .ok ((row, some comments), v) := by
  rw [rowAndNext, bind_of_ok taken]
  cases more with
  | nil =>
    cases list
    obtain ⟨texts, layout'⟩ := gap
    rw [bind_of_ok (comments_eq_ok_iff.2 ⟨layout.append layout', solid⟩), get_bind, if_pos ends]
    rfl
  | cons row' more =>
    obtain ⟨solid', goesOn⟩ := atEnd_of_rows list
    rw [bind_of_ok (comments_eq_ok_iff.2 ⟨layout, solid'⟩), get_bind, goesOn]
    rfl

/-- A row that was taken, with the rows behind it, is a chain of rows. -/
theorem chain_of_row {before comments : List String} {s t u v r : List Char}
    {row : List (Arc String String)} {more : Rows String String}
    (taken : Reader.row limit inner before s = .ok (row, t)) (layout : Layout t comments v)
    (list : RowList Block comments v more u) (gap : Gap u r) (solid : Solid r)
    (ends : atEnd r = true)
    (step : more ≠ [] → chain (rowAndNext limit inner) (advances_rowAndNext limit inner)
      comments v = .ok (more, r)) :
    chain (rowAndNext limit inner) (advances_rowAndNext limit inner) before s =
      .ok (row :: more, r) := by
  rw [chain_eq, rowAndNext_complete taken layout list gap solid ends]
  cases more with
  | nil => rfl
  | cons row' more =>
    rw [if_neg (by simp)]
    dsimp only
    rw [step (by simp)]
    rfl

/-- What rows end with does not go on with a row. -/
theorem head_of_atEnd {r : List Char} (ends : atEnd r = true) :
    ∀ c ∈ r.head?, c ≠ ';' ∧ c ≠ ',' ∧ c ≠ '[' := by
  intro c first
  cases r with
  | nil => cases first
  | cons d r =>
    cases first
    obtain rfl : c = '\x7d' := by simpa [atEnd] using ends
    decide

/-- Nor does what rows start with. -/
theorem head_of_rows {before : List String} {s r : List Char} {row : List (Arc String String)}
    {rows : Rows String String} (list : RowList Block before s (row :: rows) r) :
    ∀ c ∈ s.head?, c ≠ ';' ∧ c ≠ ',' ∧ c ≠ '[' := by
  obtain ⟨a, t, item⟩ := list.starts
  obtain ⟨c, rest, rfl, starts⟩ := item.starts
  rintro d ⟨⟩
  have other {e : Char} (no : startsArc e = false) : c ≠ e := by
    rintro rfl
    exact absurd starts (by simp [no])
  exact ⟨other (by decide), other (by decide), other (by decide)⟩

theorem chain_of_rows (admits : Admits Block inner) {before : List String} {s t r : List Char}
    {all : Rows String String} (list : RowList Block before s all t) (some_row : all ≠ [])
    (gap : Gap t r) (solid : Solid r) (ends : atEnd r = true) :
    chain (rowAndNext limit inner) (advances_rowAndNext limit inner) before s = .ok (all, r) := by
  have recognised := arc_recognises admits limit
  induction list with
  | nil => exact absurd rfl some_row
  | @closed before comments s t u v r' row more listed closed layout list step =>
    have taken : Reader.row limit inner before s = .ok (row, u) :=
      series_of_close recognised _ (by decide) (by decide) (by decide) (Gap.refl s) listed
        closed
    exact chain_of_row taken layout list gap solid ends fun nonempty => step nonempty gap
  | @unclosed before s t u r' row more listed closes after list step =>
    -- Without a semicolon the row ends where the next one starts, or the rows end.
    cases more with
    | nil =>
      cases list
      have taken : Reader.row limit inner before s = .ok (row, r) :=
        series_of_open recognised _ (by decide) (Gap.refl s) listed closes (after.trans gap) solid
          (head_of_atEnd ends)
      have none : RowList Block [] r [] r := .nil
      exact chain_of_row taken .done none (Gap.refl r) solid ends (by simp)
    | cons row' more =>
      have taken : Reader.row limit inner before s = .ok (row, u) :=
        series_of_open recognised _ (by decide) (Gap.refl s) listed closes after
          (atEnd_of_rows list).1 (head_of_rows list)
      exact chain_of_row taken .done list gap solid ends fun nonempty => step nonempty gap

/-- Layout and rows behind it, up to what ends them. -/
theorem comments_rows_complete (limit : Int) (admits : Admits Block inner) {comments : List String}
    {s t u r : List Char} {all : Rows String String} (layout : Layout s comments t)
    (list : RowList Block comments t all u) (gap : Gap u r) (solid : Solid r)
    (ends : atEnd r = true) :
    (Reader.comments >>= rows limit inner) s = .ok (all, r) := by
  cases all with
  | nil =>
    cases list
    obtain ⟨texts, layout'⟩ := gap
    rw [bind_of_ok (comments_eq_ok_iff.2 ⟨layout.append layout', solid⟩), rows, get_bind,
      if_pos ends]
    rfl
  | cons row more =>
    obtain ⟨solid', goesOn⟩ := atEnd_of_rows list
    rw [bind_of_ok (comments_eq_ok_iff.2 ⟨layout, solid'⟩), rows, get_bind, goesOn]
    exact chain_of_rows admits list (by simp) gap solid ends

end

theorem admits_inside (limit : Int) (levels : Nat) :
    Admits (Grammar.Block levels) (inside limit levels) := by
  induction levels with
  | zero =>
    constructor
    · intro body s all r same _
      cases same
    · intro s all t r stands
      exact stands.elim
  | succ levels step =>
    constructor
    · intro body s all r same read
      cases same
      obtain ⟨texts, t, layout, read⟩ := bind_eq_ok_iff.1 read
      obtain ⟨layout, solid⟩ := comments_eq_ok_iff.1 layout
      exact ⟨texts, t, layout, (rows_sound step solid read).1⟩
    · rintro s all t r ⟨texts, u, layout, list⟩ gap solid ends
      exact ⟨_, rfl, comments_rows_complete limit step layout list gap solid ends⟩

end Reader

end SeqChart
