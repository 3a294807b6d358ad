import SeqChart.Proofs.Chart.Flatten
import SeqChart.Proofs.Writing.Rows
/-!
What is written for rows without inline expressions, and what it means. Main statement,
`rows_flattened`: the rows come back as `Arc.flatRows` has them.

The end of a block is written where a reader sees a comment. So a text of arcs is followed from one
arc to the next, whatever their levels, with the comments that wait for the next one.
-/

namespace SeqChart

open Grammar

theorem Dialect.Keeps.beq_without {attrs attrs' : Mapping String String}
    (keeps : mscgen.Keeps attrs attrs') (proper : ProperAttrs attrs) :
    (attrs' == attrs.without "title") = true := by
  rw [Mapping.beq_iff]
  intro key
  rw [keeps key, Mapping.get?_without]
  have known : key ∈ mscgen.attributes ↔ key ∈ attributeNames ∧ key ≠ "title" := by
    simp [Dialect.attributes]
  by_cases title : key = "title"
  · have dropped : key ∉ mscgen.attributes := fun member => (known.1 member).2 title
    rw [if_neg dropped, if_pos (beq_iff_eq.2 title)]
  · cases found : attrs.get? key with
    | none => simp
    | some value => simp [known, title, (proper key value found).1]

section

variable (Block : List Char → Rows String String → List Char → Prop)

/-- Behind some comments, a text gives arcs, each with whether it ends its row, and leaves comments
for the arc behind it. -/
inductive Emits : List String → List Char → List (Arc String String × Bool) → List String →
    List Char → Prop
  | done {before comments : List String} {s r : List Char} :
      Layout s comments r → Emits before s [] (before ++ comments) r
  | arc {before comments after : List String} {s t u v r : List Char} {arc : Arc String String}
      {ends : Bool} {items : List (Arc String String × Bool)} :
      Layout s comments t → ArcItem Block (before ++ comments) t arc u →
      Gap u ((if ends then ';' else ',') :: v) → Emits [] v items after r →
      Emits before s ((arc, ends) :: items) after r

end

section

variable {Block : List Char → Rows String String → List Char → Prop} {before after : List String}
  {s r : List Char} {items : List (Arc String String × Bool)}

theorem Emits.nil (before : List String) (s : List Char) : Emits Block before s [] before s := by
  have none : Emits Block before s [] (before ++ []) s := .done .done
  rwa [List.append_nil] at none

theorem Emits.of_layout {comments : List String} {t : List Char} (layout : Layout s comments t)
    (emits : Emits Block (before ++ comments) t items after r) :
    Emits Block before s items after r := by
  cases emits with
  | done more =>
    rw [List.append_assoc]
    exact .done (layout.append more)
  | arc more item gap rest =>
    rw [List.append_assoc] at item
    exact .arc (layout.append more) item gap rest

theorem Emits.append {between : List String} {t : List Char}
    {more : List (Arc String String × Bool)} (first : Emits Block before s items between t)
    (second : Emits Block between t more after r) :
    Emits Block before s (items ++ more) after r := by
  induction first with
  | done layout => exact .of_layout layout second
  | arc layout item gap _ step => exact .arc layout item gap (step second)

/-- A further arc at the start of the first row. -/
theorem Grammar.RowList.push {comments : List String} {t u v : List Char}
    {arc : Arc String String} {row : List (Arc String String)} {rows : Rows String String}
    (item : ArcItem Block before s arc t) (gap : Gap t (',' :: u)) (layout : Layout u comments v)
    (list : RowList Block comments v (row :: rows) r) :
    RowList Block before s ((arc :: row) :: rows) r := by
  cases list with
  | closed first closed more rest => exact .closed (.more item gap layout first) closed more rest
  | unclosed first last more rest =>
    obtain ⟨final, found, isInline⟩ := last
    have last : ∃ final ∈ (arc :: row).getLast?, final.isInline = true :=
      ⟨final, by simp [List.getLast?_cons, Option.mem_def.1 found], isInline⟩
    exact .unclosed (.more item gap layout first) last more rest

/-- Arcs that leave no row open are rows. -/
theorem Emits.rows (emits : Emits Block before s items after r) (whole : EndsRows items) :
    ∃ comments t,
      Layout s comments t ∧ RowList Block (before ++ comments) t (splitRows items) r := by
  induction emits with
  | @done _ comments _ r layout => exact ⟨comments, r, layout, .nil⟩
  | @arc before comments after s t u v r arc ends items layout item gap rest step =>
    refine ⟨comments, t, layout, ?_⟩
    cases items with
    | nil =>
      have ends : ends = true := whole (arc, ends) rfl
      subst ends
      obtain ⟨more, w, layout', list⟩ := step (by rintro _ ⟨⟩)
      exact .closed (.one item) gap layout' list
    | cons next items =>
      obtain ⟨more, w, layout', list⟩ := step (endsRows_cons_cons.1 whole)
      cases ends with
      | true => exact .closed (.one item) gap layout' list
      | false =>
        -- The next arc starts a row of its own so far, and this one joins it.
        obtain ⟨row, rows, split⟩ := splitRows_of_ne_nil (List.cons_ne_nil next items)
        rw [split] at list
        rw [splitRows, split]
        exact list.push item gap layout'

end

namespace Writer

theorem arcText_flat (minify : Bool) (level : Nat) (kind : InlineKind) (source target : String)
    (rows : Rows String String) (attrs : Mapping String String) (comments : List String)
    (x : List Char) :
    arcText ⟨minify, .mscgen⟩ level (.inline kind source target rows attrs comments) ++ x =
      headText (nameText source) ArcKind.line.token (nameText target) ++
        (attributesText ⟨minify, .mscgen⟩ attrs ++ ';' :: (lineEnd ⟨minify, .mscgen⟩ ++
          (rowsText ⟨minify, .mscgen⟩ (level + 1) rows ++
            (margin ⟨minify, .mscgen⟩ (level - 1) ++ '#' :: x)))) := by
  simp [arcText, Dialect.blockForm]

theorem layout_blockEnd (style : Style) (level : Nat) (ends : Bool) (x : List Char) :
    Layout (margin style level ++ '#' :: (if ends then ';' else ',') :: '\n' :: x)
      [if ends then "#;" else "#,"] x := by
  refine Layout.of_blanks (blank_margin style level) ?_
  have proper : ∀ mark ∈ ["#;", "#,"], ProperComment mark.toList := by
    intro mark member
    have among : mark = "#;" ∨ mark = "#," := by simpa using member
    rcases among with rfl | rfl
    · exact .inr ⟨⟨.inl ⟨[';'], rfl⟩, by simp⟩, by rintro c ⟨⟩; decide⟩
    · exact .inr ⟨⟨.inl ⟨[','], rfl⟩, by simp⟩, by rintro c ⟨⟩; decide⟩
  cases ends with
  | true => exact layout_comment (proper "#;" (by simp)) .done
  | false => exact layout_comment (proper "#," (by simp)) .done

theorem endsWord_separator (ends : Bool) (x : List Char) :
    EndsWord ((if ends then ';' else ',') :: x) := by
  cases ends <;> exact endsWord_cons _ rfl

section

variable {Block : List Char → Rows String String → List Char → Prop}

/-- An arc in one line. -/
theorem emits_line (style : Style) (level : Nat) {pending comments : List String}
    (proper : ProperComments comments) {ends : Bool} {s x : List Char} {arc : Arc String String}
    (item : ArcItem Block (pending ++ comments) s arc
      ((if ends then ';' else ',') :: (lineEnd style ++ x))) :
    Emits Block pending (commentsText style level comments ++ (margin style level ++ s))
      [(arc, ends)] [] x :=
  .arc (layout_before style level proper s) item (Gap.refl _)
    (.done (Layout.of_blanks (blank_lineEnd _) .done))

mutual

theorem arc_flattened (minify : Bool) (level : Nat) (arc : Arc String String)
    (proper : arc.Proper) (pending : List String) (ends : Bool) (x : List Char) :
    ∃ items, Emits Block pending
      (commentsText ⟨minify, .mscgen⟩ level arc.comments ++ (margin ⟨minify, .mscgen⟩ level ++
        (arcText ⟨minify, .mscgen⟩ level arc ++ (if ends then ';' else ',') ::
          (arcEnd ⟨minify, .mscgen⟩ arc ++ x)))) items (arc.flat pending ends).2 x ∧
      List.Forall₂ (Alike (Arc.same · · = true)) items (arc.flat pending ends).1 := by
  cases arc with
  | message kind source target attrs comments =>
    obtain ⟨first, second, properAttrs, properComments⟩ := proper
    obtain ⟨attrs', item, keeps⟩ := message_written ⟨minify, .mscgen⟩ kind
      (fun _ => end_endText first) (fun _ => end_endText second) properAttrs (pending ++ comments)
      (endsWord_separator ends (lineEnd ⟨minify, .mscgen⟩ ++ x))
    rw [arcText, List.append_assoc]
    exact ⟨_, emits_line ⟨minify, .mscgen⟩ level properComments item,
      .cons ⟨Arc.same_message_iff.2 ⟨_, rfl, keeps.beq_without properAttrs⟩, rfl⟩ .nil⟩
  | box kind source target attrs comments =>
    obtain ⟨other, first, second, properAttrs, properComments⟩ := proper
    obtain ⟨attrs', item, keeps⟩ := box_written ⟨minify, .mscgen⟩ kind other first second
      properAttrs (pending ++ comments) (endsWord_separator ends (lineEnd ⟨minify, .mscgen⟩ ++ x))
    rw [arcText, List.append_assoc]
    exact ⟨_, emits_line ⟨minify, .mscgen⟩ level properComments item,
      .cons ⟨Arc.same_box_iff.2 ⟨_, rfl, keeps.beq_without properAttrs⟩, rfl⟩ .nil⟩
  | empty kind attrs comments =>
    obtain ⟨properAttrs, properComments⟩ := proper
    obtain ⟨attrs', item, keeps⟩ :=
      empty_written ⟨minify, .mscgen⟩ kind properAttrs (pending ++ comments)
    rw [arcText, List.append_assoc]
    exact ⟨_, emits_line ⟨minify, .mscgen⟩ level properComments item,
      .cons ⟨Arc.same_empty_iff.2 ⟨_, rfl, keeps.beq_without properAttrs⟩, rfl⟩ .nil⟩
  | inline kind source target rows attrs comments =>
    obtain ⟨-, first, second, properAttrs, properComments, properRows⟩ := proper
    -- The rows inside start behind the line with no comments waiting.
    obtain ⟨items, inside, alike⟩ := rows_emitted minify (level + 1) rows properRows []
      (margin ⟨minify, .mscgen⟩ (level - 1) ++ '#' :: (if ends then ';' else ',') :: '\n' :: x)
    have behind := inside.append (.done (layout_blockEnd ⟨minify, .mscgen⟩ (level - 1) ends x))
    rw [List.append_nil] at behind
    obtain ⟨attrs', item, keeps⟩ := message_written ⟨minify, .mscgen⟩ .line
      (fun _ ends => .name (name_nameText first ends))
      (fun _ ends => .name (name_nameText second ends)) properAttrs (pending ++ comments)
      (endsWord_separator true _)
    rw [arcText_flat]
    exact ⟨_, .arc (layout_before _ level properComments _) item (Gap.refl _)
        (.of_layout (Layout.of_blanks (blank_lineEnd _) .done) behind),
      .cons ⟨Arc.same_message_iff.2 ⟨_, rfl, keeps.beq_without properAttrs⟩, rfl⟩ alike⟩

theorem row_flattened (minify : Bool) (level : Nat) (row : List (Arc String String))
    (proper : Arc.ProperRow row) (pending : List String) (x : List Char) :
    ∃ items, Emits Block pending (rowText ⟨minify, .mscgen⟩ level row ++ x) items
      (Arc.flatRow pending row).2 x ∧
        List.Forall₂ (Alike (Arc.same · · = true)) items (Arc.flatRow pending row).1 := by
  cases row with
  | nil => exact ⟨[], .nil pending x, .nil⟩
  | cons arc rest =>
    obtain ⟨properArc, properRest⟩ := proper
    obtain ⟨items, first, alike⟩ := arc_flattened minify level arc properArc pending rest.isEmpty
      (rowText ⟨minify, .mscgen⟩ level rest ++ x)
    obtain ⟨more, second, alike'⟩ := row_flattened minify level rest properRest
      (arc.flat pending rest.isEmpty).2 x
    rw [rowText_cons]
    exact ⟨items ++ more, first.append second, List.rel_append alike alike'⟩

theorem rows_emitted (minify : Bool) (level : Nat) (rows : Rows String String)
    (proper : Arc.ProperRows rows) (pending : List String) (x : List Char) :
    ∃ items, Emits Block pending (rowsText ⟨minify, .mscgen⟩ level rows ++ x) items
      (Arc.flatRows pending rows).2 x ∧
        List.Forall₂ (Alike (Arc.same · · = true)) items (Arc.flatRows pending rows).1 := by
  cases rows with
  | nil => exact ⟨[], .nil pending x, .nil⟩
  | cons row rest =>
    obtain ⟨-, properRow, properRest⟩ := proper
    obtain ⟨items, first, alike⟩ := row_flattened minify level row properRow pending
      (rowsText ⟨minify, .mscgen⟩ level rest ++ x)
    obtain ⟨more, second, alike'⟩ := rows_emitted minify level rest properRest
      (Arc.flatRow pending row).2 x
    rw [rowsText, List.append_assoc]
    exact ⟨items ++ more, first.append second, List.rel_append alike alike'⟩

end

/-- Rows come back flattened, whatever may be between braces. -/
theorem rows_flattened (minify : Bool) {rows : Rows String String}
    (proper : Arc.ProperRows rows) (x : List Char) :
    ∃ rows' before s, Layout (rowsText ⟨minify, .mscgen⟩ 1 rows ++ x) before s ∧
      RowList Block before s rows' x ∧
      Arc.sameRows rows' (splitRows (Arc.flatRows [] rows).1) = true := by
  obtain ⟨items, emits, alike⟩ := rows_emitted minify 1 rows proper [] x
  have whole := EndsRows.of_forall₂ alike (Arc.flatRows_endsRows [] rows)
  obtain ⟨before, s, layout, list⟩ := emits.rows whole
  exact ⟨_, before, s, layout, list, Arc.sameRows_iff.2 (splitRows_forall₂ alike)⟩

end

end Writer

end SeqChart
