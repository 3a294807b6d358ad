import SeqChart.Proofs.Writing.Head
/-!
What is written for arcs and rows, and what it means. Main statement, `rows_written`: with blocks in
braces, rows come back as they were.
-/

namespace SeqChart

open Grammar

/-- A dialect that knows all attributes keeps all that a proper mapping has. -/
theorem Dialect.Keeps.beq {attrs attrs' : Mapping String String} (keeps : xu.Keeps attrs attrs')
    (proper : ProperAttrs attrs) : (attrs' == attrs) = true := by
  rw [Mapping.beq_iff]
  intro key
  rw [keeps key]
  split
  · rfl
  · rename_i unknown
    cases found : attrs.get? key with
    | none => rfl
    | some value => exact absurd (proper key value found).1 unknown

namespace Writer

/-! ## Operators and keywords -/

theorem operator_written (kind : ArcKind) (r : List Char) :
    Operator (kind.token.toList ++ ' ' :: r) kind (' ' :: r) := by
  refine ⟨rfl, fun other stands => ?_⟩
  by_contra longer
  -- A longer operator would reach over the space, and none holds one.
  have kindAndSpace : kind.token.toList ++ [' '] <+: kind.token.toList ++ ' ' :: r :=
    ⟨r, by simp⟩
  have inside := List.prefix_of_prefix_length_le kindAndSpace stands (by simp; omega)
  have member : ' ' ∈ other.token.toList := inside.subset (by simp)
  have none : ∀ kind ∈ ArcKind.all, ' ' ∉ kind.token.toList := by decide
  exact none other (ArcKind.mem_all other) member

theorem keyword_written {token : String} (known : token ∈ reservedWords) {r : List Char}
    (ends : EndsWord r) : Keyword token (token.toList ++ r) r := by
  have all : ∀ token ∈ reservedWords, (token.toList ≠ [] ∧ token.toList.all Text.isWord = true) ∧
      Text.lowerText token = token := by decide
  obtain ⟨letters, lowered⟩ := all token known
  exact ⟨token.toList, word_append letters ends, by rwa [String.ofList_toList]⟩

theorem mem_reservedWords_box (kind : BoxKind) : kind.token ∈ reservedWords :=
  List.mem_cons_of_mem _ (List.mem_append_left _ (List.mem_map_of_mem (BoxKind.mem_all kind)))

theorem mem_reservedWords_inline (kind : InlineKind) : kind.token ∈ reservedWords :=
  List.mem_cons_of_mem _ (List.mem_append_right _ (List.mem_map_of_mem (InlineKind.mem_all kind)))

theorem gap_blank (s : List Char) : Gap (' ' :: s) s :=
  (Layout.blank (by decide) .done).gap

theorem endsWord_blank (s : List Char) : EndsWord (' ' :: s) :=
  endsWord_cons s (by decide)

theorem endsWord_brace (style : Style) (s : List Char) :
    EndsWord (space style ++ '\x7b' :: s) := by
  rw [space]
  split
  · exact endsWord_cons _ rfl
  · exact endsWord_blank _

theorem headText_append (source target : List Char) (operator : String) (r : List Char) :
    headText source operator target ++ r =
      source ++ ' ' :: (operator.toList ++ ' ' :: (target ++ r)) := by
  simp [headText]

/-! ## Arcs in one line -/

section

variable {Block : List Char → Rows String String → List Char → Prop} {source target : String}
  {attrs : Mapping String String} {r : List Char}

theorem message_written (style : Style) (kind : ArcKind) {sourceText targetText : List Char}
    (first : ∀ s, EndsWord s → End (sourceText ++ s) source s)
    (second : ∀ s, EndsWord s → End (targetText ++ s) target s) (proper : ProperAttrs attrs)
    (before : List String) (ends : EndsWord r) :
    ∃ attrs', ArcItem Block before
      (headText sourceText kind.token targetText ++ (attributesText style attrs ++ r))
      (.message kind source target attrs' before) r ∧ style.dialect.Keeps attrs attrs' := by
  obtain ⟨attrs', stands, keeps⟩ := attributes_written style proper r
  rw [headText_append]
  exact ⟨attrs', .message (first _ (endsWord_blank _)) (gap_blank _) (operator_written kind _)
    (gap_blank _) (second _ (endsWord_attributesText style attrs ends)) stands, keeps⟩

theorem box_written (style : Style) (kind : BoxKind) (other : source ≠ broadcast)
    (first : ProperName source) (second : ProperName target) (proper : ProperAttrs attrs)
    (before : List String) (ends : EndsWord r) :
    ∃ attrs', ArcItem Block before
      (headText (nameText source) kind.token (nameText target) ++ (attributesText style attrs ++ r))
      (.box kind source target attrs' before) r ∧ style.dialect.Keeps attrs attrs' := by
  obtain ⟨attrs', stands, keeps⟩ := attributes_written style proper r
  rw [headText_append]
  exact ⟨attrs', .box (name_nameText first (endsWord_blank _)) other (gap_blank _)
    (keyword_written (mem_reservedWords_box kind) (endsWord_blank _)) (gap_blank _)
    (name_nameText second (endsWord_attributesText style attrs ends)) stands, keeps⟩

theorem empty_written (style : Style) (kind : EmptyKind) (proper : ProperAttrs attrs)
    (before : List String) :
    ∃ attrs', ArcItem Block before
      (kind.token.toList ++ (attributesText style attrs ++ r)) (.empty kind attrs' before) r ∧
      style.dialect.Keeps attrs attrs' := by
  obtain ⟨attrs', stands, keeps⟩ := attributes_written style proper r
  exact ⟨attrs', .empty stands, keeps⟩

/-- A block stands between braces behind its heading. -/
theorem inline_written (style : Style) (kind : InlineKind) (other : source ≠ broadcast)
    (first : ProperName source) (second : ProperName target) (proper : ProperAttrs attrs)
    (before : List String) {s t : List Char} {rows : Rows String String} (block : Block s rows t)
    (closed : Gap t ('\x7d' :: r)) :
    ∃ attrs', ArcItem Block before
      (headText (nameText source) kind.token (nameText target) ++
        (attributesText style attrs ++ (space style ++ '\x7b' :: s)))
      (.inline kind source target rows attrs' before) r ∧ style.dialect.Keeps attrs attrs' := by
  obtain ⟨attrs', stands, keeps⟩ := attributes_written style proper (space style ++ '\x7b' :: s)
  have ends := endsWord_brace style s
  rw [headText_append]
  exact ⟨attrs', .inline (name_nameText first (endsWord_blank _)) other (gap_blank _)
    (keyword_written (mem_reservedWords_inline kind) (endsWord_blank _)) (gap_blank _)
    (name_nameText second (endsWord_attributesText style attrs ends)) stands
    (Layout.of_blanks (blank_space style) .done).gap block closed, keeps⟩

end

/-! ## Rows with blocks in braces -/

theorem arcText_inline (minify : Bool) (level : Nat) (kind : InlineKind) (source target : String)
    (rows : Rows String String) (attrs : Mapping String String) (comments : List String)
    (r : List Char) :
    arcText ⟨minify, .xu⟩ level (.inline kind source target rows attrs comments) ++ r =
      headText (nameText source) kind.token (nameText target) ++
        (attributesText ⟨minify, .xu⟩ attrs ++ (space ⟨minify, .xu⟩ ++ '\x7b' ::
          (lineEnd ⟨minify, .xu⟩ ++ (rowsText ⟨minify, .xu⟩ (level + 1) rows ++
            (margin ⟨minify, .xu⟩ level ++ '\x7d' :: r))))) := by
  simp [arcText, Dialect.blockForm]

theorem rowText_cons (style : Style) (level : Nat) (arc : Arc String String)
    (rest : List (Arc String String)) (x : List Char) :
    rowText style level (arc :: rest) ++ x =
      commentsText style level arc.comments ++ (margin style level ++
        (arcText style level arc ++ (if rest.isEmpty then ';' else ',') ::
          (arcEnd style arc ++ (rowText style level rest ++ x)))) := by
  simp [rowText]

theorem arcEnd_xu (minify : Bool) (arc : Arc String String) :
    arcEnd ⟨minify, .xu⟩ arc = lineEnd ⟨minify, .xu⟩ := by
  simp [arcEnd, Dialect.blockForm]

mutual

theorem arc_written (minify : Bool) (level : Nat) (arc : Arc String String) (proper : arc.Proper)
    {levels : Nat} (fits : arc.nesting ≤ levels) {r : List Char} (ends : EndsWord r) :
    ∃ arc', ArcItem (Block levels) arc.comments (arcText ⟨minify, .xu⟩ level arc ++ r) arc' r ∧
      Arc.same arc' arc = true := by
  cases arc with
  | message kind source target attrs comments =>
    obtain ⟨first, second, properAttrs, -⟩ := proper
    obtain ⟨attrs', item, keeps⟩ := message_written ⟨minify, .xu⟩ kind
      (fun _ => end_endText first) (fun _ => end_endText second) properAttrs comments ends
    rw [arcText, List.append_assoc]
    exact ⟨_, item, Arc.same_message_iff.2 ⟨attrs, rfl, keeps.beq properAttrs⟩⟩
  | box kind source target attrs comments =>
    obtain ⟨other, first, second, properAttrs, -⟩ := proper
    obtain ⟨attrs', item, keeps⟩ :=
      box_written ⟨minify, .xu⟩ kind other first second properAttrs comments ends
    rw [arcText, List.append_assoc]
    exact ⟨_, item, Arc.same_box_iff.2 ⟨attrs, rfl, keeps.beq properAttrs⟩⟩
  | empty kind attrs comments =>
    obtain ⟨attrs', item, keeps⟩ := empty_written ⟨minify, .xu⟩ kind proper.1 comments
    rw [arcText, List.append_assoc]
    exact ⟨_, item, Arc.same_empty_iff.2 ⟨attrs, rfl, keeps.beq proper.1⟩⟩
  | inline kind source target rows attrs comments =>
    obtain ⟨other, first, second, properAttrs, -, properRows⟩ := proper
    -- The rows inside are a level down, and what ends them is the margin of the closing brace.
    cases levels with
    | zero => simp [Arc.nesting] at fits
    | succ levels =>
      obtain ⟨rows', before, s, layout, list, sameRows⟩ := rows_written minify (level + 1) rows
        properRows (Nat.le_of_succ_le_succ fits) (margin ⟨minify, .xu⟩ level ++ '\x7d' :: r)
      have block : Block (levels + 1) (lineEnd ⟨minify, .xu⟩ ++
          (rowsText ⟨minify, .xu⟩ (level + 1) rows ++ (margin ⟨minify, .xu⟩ level ++ '\x7d' :: r)))
          rows' (margin ⟨minify, .xu⟩ level ++ '\x7d' :: r) :=
        ⟨before, s, Layout.of_blanks (blank_lineEnd _) layout, list⟩
      obtain ⟨attrs', item, keeps⟩ := inline_written ⟨minify, .xu⟩ kind other first second
        properAttrs comments block (Layout.of_blanks (blank_margin _ level) .done).gap
      rw [arcText_inline]
      exact ⟨_, item, Arc.same_inline_iff.2 ⟨rows, attrs, rfl, sameRows, keeps.beq properAttrs⟩⟩

theorem row_written (minify : Bool) (level : Nat) (row : List (Arc String String))
    (some_arc : row ≠ []) (proper : Arc.ProperRow row) {levels : Nat}
    (fits : Arc.nestingOfRow row ≤ levels) (x : List Char) :
    ∃ row' before s t, Layout (rowText ⟨minify, .xu⟩ level row ++ x) before s ∧
      ListOf (ArcItem (Block levels)) before s row' t ∧
      Gap t (';' :: (lineEnd ⟨minify, .xu⟩ ++ x)) ∧ Arc.sameRow row' row = true := by
  cases row with
  | nil => exact absurd rfl some_arc
  | cons arc rest =>
    obtain ⟨properArc, properRest⟩ := proper
    obtain ⟨fitsArc, fitsRest⟩ := Nat.max_le.1 fits
    rw [rowText_cons, arcEnd_xu]
    cases rest with
    | nil =>
      obtain ⟨arc', item, sameArc⟩ := arc_written minify level arc properArc fitsArc
        (endsWord_cons (lineEnd ⟨minify, .xu⟩ ++ x) (c := ';') (by decide))
      exact ⟨[arc'], _, _, _, layout_before _ level properArc.comments _, .one item, Gap.refl _,
        by rw [Arc.sameRow, sameArc]; rfl⟩
    | cons next rest =>
      obtain ⟨rest', before, s, t, layout, list, closed, sameRest⟩ :=
        row_written minify level (next :: rest) (by simp) properRest fitsRest x
      obtain ⟨arc', item, sameArc⟩ := arc_written minify level arc properArc fitsArc
        (endsWord_cons (lineEnd ⟨minify, .xu⟩ ++ (rowText ⟨minify, .xu⟩ level (next :: rest) ++ x))
          (c := ',') (by decide))
      exact ⟨arc' :: rest', _, _, t, layout_before _ level properArc.comments _,
        .more item (Gap.refl _) (Layout.of_blanks (blank_lineEnd _) layout) list, closed,
        by rw [Arc.sameRow, sameArc, sameRest]; rfl⟩

theorem rows_written (minify : Bool) (level : Nat) (rows : Rows String String)
    (proper : Arc.ProperRows rows) {levels : Nat} (fits : Arc.nestingOfRows rows ≤ levels)
    (x : List Char) :
    ∃ rows' before s, Layout (rowsText ⟨minify, .xu⟩ level rows ++ x) before s ∧
      RowList (Block levels) before s rows' x ∧ Arc.sameRows rows' rows = true := by
  cases rows with
  | nil => exact ⟨[], [], x, .done, .nil, rfl⟩
  | cons row rest =>
    obtain ⟨some_arc, properRow, properRest⟩ := proper
    obtain ⟨fitsRow, fitsRest⟩ := Nat.max_le.1 fits
    obtain ⟨rest', before', s', layout', list', sameRest⟩ :=
      rows_written minify level rest properRest fitsRest x
    obtain ⟨row', before, s, t, layout, list, closed, sameRow⟩ := row_written minify level row
      some_arc properRow fitsRow (rowsText ⟨minify, .xu⟩ level rest ++ x)
    rw [rowsText, List.append_assoc]
    exact ⟨row' :: rest', before, s, layout,
      .closed list closed (Layout.of_blanks (blank_lineEnd _) layout') list',
      by rw [Arc.sameRows, sameRow, sameRest]; rfl⟩

end

end Writer

end SeqChart
