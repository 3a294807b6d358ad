import SeqChart.Proofs.Grammar.TooDeep
import SeqChart.Proofs.Reading.Wants
/-!
What readers of arcs and rows stop for want of. Main statement, `rows_completable`: rows up to a
place where something is needed can be completed, if no inline expression before it is too deep.
-/

namespace SeqChart

open Grammar

namespace Grammar

variable {z : List Char}

/-- The rows of a block up to and with its closing brace. -/
def BlockTo (levels : Nat) (s r : List Char) : Prop :=
  ∃ rows b, Block levels s rows b ∧ Gap b ('\x7d' :: r)

/-- What stands behind the attributes of a box or an inline expression. -/
def Closing (levels : Nat) : BoxKind ⊕ InlineKind → List Char → List Char → Prop
  | .inl _ => fun s r => s = r
  | .inr _ => Relation.Comp (fun s u => Gap s ('\x7b' :: u)) (BlockTo levels)

theorem startable_blockTo (levels : Nat) : Startable (BlockTo (levels + 1)) :=
  ⟨['\x7d'], fun r => ⟨[], '\x7d' :: r, ⟨[], _, .done, .nil⟩, Gap.refl _⟩⟩

theorem startable_closing {levels : Nat} {kind : BoxKind ⊕ InlineKind}
    (room : ∀ inline, kind = .inr inline → levels ≠ 0) : Startable (Closing levels kind) := by
  cases kind with
  | inl kind => exact ⟨[], fun _ => rfl⟩
  | inr kind =>
    obtain ⟨levels, rfl⟩ := Nat.exists_eq_succ_of_ne_zero (room kind rfl)
    have brace : Startable fun s u => Gap s ('\x7b' :: u) := ⟨['\x7b'], fun _ => Gap.refl _⟩
    exact brace.andThen (startable_blockTo levels)

/-- Behind its keyword, a box or an inline expression goes on with a name and attributes. -/
theorem ArcItem.of_closing {levels : Nat} {before : List String} {s t u v w x y r : List Char}
    {kind : BoxKind ⊕ InlineKind} {source target : String} {attrs : Mapping String String}
    (named : Name s source t) (other : source ≠ broadcast) (gap : Gap t u)
    (keyword : Keyword (Reader.blockToken kind) u v) (gap' : Gap v w) (named' : Name w target x)
    (stands : Attributes x attrs y) (closing : Closing levels kind y r) :
    ∃ a, ¬ a.HasEquals ∧ ArcItem (Block levels) before s a r := by
  cases kind with
  | inl kind =>
    obtain rfl := closing
    exact ⟨_, id, .box named other gap keyword gap' named' stands⟩
  | inr kind =>
    obtain ⟨z, opened, rows, b, inside, closed⟩ := closing
    exact ⟨_, id, .inline named other gap keyword gap' named' stands opened inside closed⟩

/-- A text that goes on with a new line at some place starts with a word only if it did before. -/
theorem StartsWord.of_break {y w : List Char} (starts : StartsWord (y ++ '\n' :: w)) :
    StartsWord (y ++ z) := by
  cases y with
  | nil =>
    obtain ⟨c, ⟨⟩, letter⟩ := starts
    exact absurd letter (by decide)
  | cons c y => exact starts

theorem End.name_of_ne {s r : List Char} {n : String} (ended : End s n r) (other : n ≠ broadcast) :
    Name s n r := by
  cases ended with
  | all => exact absurd rfl other
  | name named => exact named

/-- An arc in which a text breaks off looks like an option only if the text does. -/
theorem ArcItem.assigns_of_break {Block : List Char → Rows String String → List Char → Prop}
    {before : List String} {y w r : List Char} {a : Arc String String}
    (item : ArcItem Block before (y ++ '\n' :: w) a r)
    (equals : a.HasEquals → StartsWord (y ++ z) → Assigns (y ++ z))
    (assigns : Assigns (y ++ '\n' :: w)) : Assigns (y ++ z) := by
  obtain ⟨starts, looks⟩ := item.assigns_iff.1 assigns
  exact equals looks starts.of_break

section

variable {Block : List Char → Rows String String → List Char → Prop}
  {before comments : List String} {row : List (Arc String String)}

/-- Blanks behind a row belong to it. -/
theorem RowAhead.append {s t u : List Char} (ahead : RowAhead Block before s row comments t)
    (layout : Layout t [] u) : RowAhead Block before s row comments u := by
  cases ahead with
  | closed list closed layout' =>
    refine .closed list closed ?_
    simpa using layout'.append layout
  | unclosed list last gap => exact .unclosed list last (gap.trans layout.gap)

theorem RowAhead.assigns_of_break {y w t u : List Char}
    (ahead : RowAhead Block before (y ++ z) row comments t)
    (ahead' : RowAhead Block before (y ++ '\n' :: w) row comments u)
    (assigns : Assigns (y ++ '\n' :: w)) : Assigns (y ++ z) := by
  obtain ⟨a, first⟩ := (ahead.rowList .nil).exists_opening
  obtain ⟨_, item⟩ := (ahead.rowList .nil).opening first
  obtain ⟨_, item'⟩ := (ahead'.rowList .nil).opening first
  exact item'.assigns_of_break (fun equals starts => item.assigns_iff.2 ⟨starts, equals⟩) assigns

end

end Grammar

namespace Reader

variable {α : Type} {s z : List Char} {limit : Int} {levels : Nat}

/-! ## Arcs -/

/-- A name or an end of a message, and attributes, in front of something else. -/
theorem target_completable {p : String → Mapping String String → Reader α} {first : Reader String}
    {Target : List Char → String → List Char → Prop} {Q : List Char → List Char → Prop}
    (needs : ∀ {s}, Misses first s z → Gap s z)
    (reads : ∀ {s n r}, first s = .ok (n, r) → ∃ t, Gap s t ∧ Target t n r)
    (exchanges : ∀ tail n, Exchanges z ('\n' :: tail) (Target · n ·))
    (starts : ∃ n, Startable fun s r => Target s n r) (start : Startable Q)
    (last : ∀ {target attrs w x t u}, Gap s w → Target w target x → Attributes x attrs t →
      Gap t u → Misses (p target attrs) u z → Completable Q t z)
    (missed : Misses (do
      let target ← first
      let attrs ← attributes
      p target attrs) s z) :
    Completable (fun s r => ∃ target attrs w x y, Gap s w ∧ Target w target x ∧
      Attributes x attrs y ∧ Q y r) s z := by
  rcases misses_bind_iff.1 missed with stopped | ⟨target, t, read, refused⟩
  · obtain ⟨n, more, took⟩ := starts
    have start' : Startable fun s r => Target s n r := ⟨more, took⟩
    refine (completable_of_gap (needs stopped) (start'.andThen start)).imp ?_
    rintro y w r - ⟨t, gap, u, named, closing⟩
    exact ⟨_, _, _, _, _, gap, named, .absent, closing⟩
  · obtain ⟨v, gap, named⟩ := reads read
    have breaks : Breaks (Target · target ·) v t z :=
      breaks_of_exchanges (fun tail => exchanges tail target) named
    rcases misses_bind_iff.1 refused with stopped | ⟨attrs, u, read', refused⟩
    · refine
        (((attributes_completable stopped).andThen start).after (gap.breaks.comp breaks)).imp ?_
      rintro y w r - ⟨p, ⟨q, gap, named⟩, o, ⟨attrs, stands⟩, closing⟩
      exact ⟨_, _, _, _, _, gap, named, stands, closing⟩
    · obtain ⟨x, stands, gap'⟩ := attributes_sound read'
      have breaks' : Breaks (Attributes · attrs ·) t x z :=
        breaks_of_exchanges (fun tail => attributes_exchanges (.line z tail) attrs) stands
      have next := last gap named stands gap' refused
      refine (next.after (gap.breaks.comp (breaks.comp breaks'))).imp ?_
      rintro y w r - ⟨p, ⟨q, gap, o, named, stands⟩, closing⟩
      exact ⟨_, _, _, _, _, gap, named, stands, closing⟩

theorem block_completable {kind : BoxKind ⊕ InlineKind} {source : String} {before : List String}
    (room : ∀ inline, kind = .inr inline → levels ≠ 0)
    (deeper : ∀ inline, kind = .inr inline → ∀ body ∈ inside limit levels,
      ∀ {target attrs w x t u}, Gap s w → Name w target x → Attributes x attrs t →
      Gap t ('\x7b' :: u) → Misses body.read u z → Completable (BlockTo levels) u z)
    (missed : Misses (block limit (inside limit levels) kind source before) s z) :
    Completable (fun s r => ∃ target attrs w x y, Gap s w ∧ Name w target x ∧
      Attributes x attrs y ∧ Closing levels kind y r) s z := by
  refine target_completable (fun missed => (gap_of_misses_name missed).1) name_eq_ok_iff.1
    (fun tail => name_exchanges (.line z tail)) ⟨_, startable_name⟩ (startable_closing room)
    (fun {target attrs w x t u} gap named stands gap' refused => ?_) missed
  cases kind with
  | inl kind => exact absurd refused (not_misses_pure _)
  | inr kind =>
    obtain ⟨levels, rfl⟩ := Nat.exists_eq_succ_of_ne_zero (room kind rfl)
    have brace : Startable (BlockTo (levels + 1)) := startable_blockTo levels
    rcases misses_bind_iff.1 refused with stopped | ⟨_, v, read, refused⟩
    · have gap'' := gap'.trans (gap_of_misses_expect stopped)
      refine (completable_of_gap gap'' ((startable_char '\x7b').andThen brace)).imp ?_
      rintro y w r - ⟨p, gap, q, rfl, block⟩
      exact ⟨q, gap, block⟩
    · have opened := gap'.trans ((expect_eq_ok_iff solid_brace).1 read)
      refine Completable.after (R := fun s u => Gap s ('\x7b' :: u)) ?_ (Gap.breaks_cons opened)
      rcases misses_bind_iff.1 refused with stopped | ⟨rows, b, read', refused⟩
      · exact deeper kind rfl _ rfl gap named stands opened stopped
      · have gap := gap_of_misses_expect (misses_of_bind_pure refused)
        have block := (admits_inside limit (levels + 1)).sound rfl read'
        have breaks : Breaks (Grammar.Block (levels + 1) · rows ·) v b z :=
          breaks_of_exchanges (fun tail => block_exchanges (.line z tail) _ _) block
        refine ((completable_of_gap gap (startable_char '\x7d')).after breaks).imp ?_
        rintro y w r - ⟨p, block, q, gap, rfl⟩
        exact ⟨rows, p, block, gap⟩

/-- No inline expression is too deep whose keyword stands before `z`. -/
def Shallow (z : List Char) (levels : Nat) (s : List Char) : Prop :=
  ∀ r, TooDeep levels s r → ¬ z <:+ r

theorem Misses.suffix {p : Reader α} (blames : Blames s Anywhere p) (missed : Misses p s z) :
    z <:+ s := by
  obtain ⟨wanted, failed⟩ := missed
  exact (blames s _ (List.suffix_refl s) trivial failed).inside

/-- An arc without an equals sign, from its operator on. -/
theorem startable_message : Startable fun s r => ∃ kind target t u v attrs, Operator s kind t ∧
    kind.token.toList.head? ≠ some '=' ∧ Gap t u ∧ End u target v ∧ Attributes v attrs r :=
  ⟨"-> *".toList, fun r => ⟨.signal, broadcast, ' ' :: '*' :: r, '*' :: r, r, ∅,
    Writer.operator_written .signal ('*' :: r), by decide, Writer.gap_blank _, .all, .absent⟩⟩

theorem startable_arc (levels : Nat) (before : List String) :
    Startable fun s r => ∃ a, ¬ a.HasEquals ∧ ArcItem (Grammar.Block levels) before s a r :=
  ⟨EmptyKind.omitted.token.toList, fun _ => ⟨.empty .omitted ∅ before, id, .empty .absent⟩⟩

/-- What has to hold of the blocks in rows: where something is needed in them, they can be completed
up to their closing braces. -/
def BlocksCompletable (limit : Int) (levels : Nat) (z : List Char) : Prop :=
  ∀ body ∈ inside limit levels, ∀ {s},
    (∀ outer t, levels = outer + 1 → Gap s t → Shallow z outer t) →
    Misses body.read s z → Completable (BlockTo levels) s z

/-- An arc whose operator starts with an equals sign behind a word only if such a sign is behind the
word at `s` too. -/
def ArcLike (levels : Nat) (before : List String) (s s' r : List Char) : Prop :=
  ∃ a : Arc String String, (a.HasEquals → StartsWord s → Assigns s) ∧
    ArcItem (Grammar.Block levels) before s' a r

/-- Behind its operator, a message that lacks something can be completed. -/
theorem message_completable {t u v : List Char} {source : String} {kind : ArcKind}
    (started : End s source t) (gap : Gap t u) (operator : Operator u kind v)
    {before : List String}
    (missed : Misses (do
      let target ← endpoint
      let attrs ← attributes
      return Arc.message kind source target attrs before) v z) :
    Completable (ArcLike levels before s) s z := by
  have breaks : Breaks (End · source ·) s t z :=
    breaks_of_exchanges (fun tail => end_exchanges (.line z tail) source) started
  have breaks' : Breaks (Operator · kind ·) u v z :=
    breaks_of_exchanges (fun tail => operator_exchanges (.line z tail) kind) operator
  have here : Startable fun s r : List Char => s = r := ⟨[], fun _ => rfl⟩
  have next := target_completable (fun missed => (gap_of_misses_endpoint missed).1)
    endpoint_eq_ok_iff.1 (fun tail => end_exchanges (.line z tail)) ⟨_, startable_end⟩ here
    (fun _ _ _ _ refused => absurd refused (not_misses_pure _)) missed
  refine (next.after (breaks.comp (gap.breaks.comp breaks'))).imp ?_
  rintro y w r - ⟨p, ⟨q, started', o, gap', operator'⟩, target, attrs, a, b, c, gap'', ended,
    stands, rfl⟩
  exact ⟨.message kind source target attrs before,
    fun equals => assigns_of_operator started gap operator equals,
    .message started' gap' operator' gap'' ended stands⟩

section

variable {before : List String} (blocks : BlocksCompletable limit levels z)

include blocks

/-- Behind its keyword, a box or an inline expression that lacks something can be completed. -/
theorem keyword_completable {t u v : List Char} {source : String} {kind : BoxKind ⊕ InlineKind}
    (started : End s source t) (other : source ≠ broadcast) (gap : Gap t u)
    (keyword : Keyword (blockToken kind) u v) (shallow : Shallow z levels s)
    (missed : Misses (block limit (inside limit levels) kind source before) v z) :
    Completable (ArcLike levels before s) s z := by
  have named := started.name_of_ne other
  have within := missed.suffix (block_blames (inside_blames limit levels) _ _ _)
  have room : ∀ inline, kind = .inr inline → levels ≠ 0 := by
    rintro inline rfl rfl
    exact shallow _ (.here ⟨named, other, gap, keyword⟩) within
  have next := block_completable room (fun inline known body member {target attrs w x t' v}
    gap' named' stands opened stopped => ?_) missed
  · have breaks : Breaks (End · source ·) s t z :=
      breaks_of_exchanges (fun tail => end_exchanges (.line z tail) source) started
    refine (next.after (breaks.comp (gap.breaks.comp keyword.breaks))).imp ?_
    rintro y w r - ⟨p, ⟨q, started, o, gap, keyword⟩, target, attrs, a, b, c, gap', named',
      stands, closing⟩
    obtain ⟨a, plain, item⟩ := ArcItem.of_closing (started.name_of_ne other) other gap keyword
      gap' named' stands closing
    exact ⟨a, fun equals => absurd equals plain, item⟩
  · subst known
    refine blocks body member ?_ stopped
    rintro outer v' rfl gap'' r deep
    exact shallow r
      (.inside ⟨⟨named, other, gap, keyword⟩, gap', named', stands, opened⟩ gap'' deep)

/-- Behind its first end, an arc that lacks something can be completed. -/
theorem arcFrom_completable {place t : List Char} {source : String}
    (started : End s source t) (shallow : Shallow z levels s)
    (missed : Misses (arcFrom limit (inside limit levels) place source before) t z) :
    Completable (ArcLike levels before s) s z := by
  obtain ⟨u, gap, solid, refused⟩ := misses_skipLayout_bind missed
  rcases acceptAny_cases ArcKind.token ArcKind.longestFirst u with
    ⟨none, -⟩ | ⟨_, kind, _, v, -, -, -, taken⟩
  · have refused := misses_bind_of_ok none refused
    dsimp only at refused
    rcases keyword?_cases blockToken blockKinds u with absent | ⟨kind, read⟩
    · have refused := misses_bind_of_ok absent refused
      obtain rfl := eq_of_misses_fail refused
      have breaks : Breaks (End · source ·) s t z :=
        breaks_of_exchanges (fun tail => end_exchanges (.line z tail) source) started
      refine ((completable_of_gap gap startable_message).after breaks).imp ?_
      rintro y w r - ⟨p, started, q, gap, kind, target, a, b, c, attrs, operator, other, gap',
        ended, stands⟩
      exact ⟨.message kind source target attrs before, fun equals => absurd equals other,
        .message started gap operator gap' ended stands⟩
    · have keyword := (keyword_of_keyword? blockToken_ne read).2
      have refused := misses_bind_of_ok read refused
      dsimp only at refused
      split at refused
      · exact absurd refused (not_misses_failAt rfl)
      · rename_i other
        exact keyword_completable blocks started other gap keyword shallow refused
  · have refused := misses_bind_of_ok taken refused
    exact message_completable started gap (acceptAny_operator_iff.1 taken) refused

theorem arc_completable (solid : Solid s) (shallow : Shallow z levels s)
    (missed : Misses (arc limit (inside limit levels) before) s z) :
    Completable (Relation.Comp (Layout · [] ·) fun t r => (Assigns t → Assigns s) ∧
      ∃ a, ArcItem (Grammar.Block levels) before t a r) s z := by
  have refused := misses_skipLayout_of_solid solid missed
  rcases acceptAny_cases EmptyKind.token EmptyKind.all s with
    ⟨none, -⟩ | ⟨_, kind, _, t, -, text, -, taken⟩
  · have refused := misses_bind_of_ok none refused
    rcases misses_bind_iff.1 (misses_get_bind refused) with stopped | ⟨source, t, read, refused⟩
    · obtain ⟨gap, solid'⟩ := gap_of_misses_endpoint stopped
      obtain rfl := Gap.unique gap solid' (Gap.refl s) solid
      refine (completable_here (startable_arc levels before)).imp ?_
      rintro y w r - ⟨t, layout, a, plain, item⟩
      exact ⟨t, layout, fun assigns => absurd (item.assigns_iff.1 assigns).2 plain, a, item⟩
    · obtain ⟨s', gap, started⟩ := endpoint_eq_ok_iff.1 read
      obtain rfl := Gap.unique gap started.solid (Gap.refl s) solid
      refine (arcFrom_completable blocks started shallow refused).imp ?_
      rintro y w r rfl ⟨a, equals, item⟩
      exact ⟨_, .done, item.assigns_of_break equals, a, item⟩
  · have refused := misses_bind_of_ok taken refused
    have breaks : Breaks (fun s t => s = kind.token.toList ++ t) s t z := by
      rintro y tail rfl
      exact ⟨kind.token.toList ++ y, by rw [text, List.append_assoc], List.append_assoc ..⟩
    refine ((attributes_completable (misses_of_bind_pure refused)).after breaks).imp ?_
    rintro y w r rfl ⟨t, text, attrs, stands⟩
    have item : ArcItem (Grammar.Block levels) before (y ++ '\n' :: w) (.empty kind attrs before)
        r := by
      rw [text]
      exact .empty stands
    exact ⟨_, .done, item.assigns_of_break False.elim, _, item⟩

theorem arc_repairs : Repairs (ArcItem (Grammar.Block levels)) (arc limit (inside limit levels))
    (Shallow z levels) (fun s t => Assigns t → Assigns s) z where
  recognised := arc_recognises (admits_inside limit levels) limit
  breaks := by
    rintro before s a t - item y tail rfl
    obtain ⟨x, rfl, item'⟩ := arcItem_exchanges (.line z tail)
      (block_exchanges (.line z tail) levels) _ _ item
    exact ⟨x, rfl, item'.assigns_of_break fun equals starts => item.assigns_iff.2 ⟨starts, equals⟩,
      item'⟩
  next := fun shallow item comma gap r deep => shallow r (.next item (.inl rfl) comma gap deep)
  missing := fun solid shallow => arc_completable blocks solid shallow

/-! ## Rows -/

/-- Rows up to and with the brace that closes them, behind blanks. `First` holds of the text of the
first of them. -/
def RowsTo (levels : Nat) (First : List Char → Prop) (before : List String) (s r : List Char) :
    Prop :=
  ∃ t rows b, Layout s [] t ∧ First t ∧ RowList (Grammar.Block levels) before t rows b ∧
    Gap b ('\x7d' :: r)

theorem rowAndNext_completable (solid : Solid s) (shallow : Shallow z levels s)
    (missed : Misses (rowAndNext limit (inside limit levels) before) s z) :
    Completable (RowsTo levels (fun t => Assigns t → Assigns s) before) s z := by
  rcases misses_bind_iff.1 missed with stopped | ⟨row, t, -, refused⟩
  · have list := series_completable (arc_repairs blocks) _ solid shallow stopped
    refine (list.andThen (startable_char '\x7d')).imp ?_
    rintro y w r - ⟨u, ⟨t, layout, first, row, v, list, closed⟩, rfl⟩
    exact ⟨t, [row], _, layout, first, .closed list closed .done .nil, Gap.refl _⟩
  · obtain ⟨_, _, -, -, refused⟩ := misses_comments_bind refused
    exact absurd (misses_get_bind refused) (not_misses_pure _)

theorem rows_completable (solid : Solid s) (shallow : Shallow z levels s)
    (missed : Misses (rows limit (inside limit levels) before) s z) :
    Completable (RowsTo levels (fun t => Assigns t → Assigns s) before) s z := by
  have refused := misses_get_bind missed
  split at refused
  · exact absurd refused (not_misses_pure _)
  · rename_i goesOn
    clear goesOn missed
    obtain ⟨wanted, failed⟩ := refused
    fun_induction chain (rowAndNext limit (inside limit levels))
      (advances_rowAndNext limit (inside limit levels)) before s with
    | case1 before s e stopped =>
      cases failed
      exact rowAndNext_completable blocks solid shallow ⟨wanted, stopped⟩
    | case2 => cases failed
    | case3 before s row next v read less step =>
      obtain ⟨solid', next', last, ahead⟩ :=
        rowAndNext_sound (admits_inside limit levels) solid read
      split at last
      · cases last
      cases last
      have more := step solid' (fun r deep => shallow r (.behind_row ahead deep))
        (Except.map_eq_error_iff.1 failed)
      have breaks : Breaks (RowAhead (Grammar.Block levels) before · row next ·) s v z :=
        breaks_of_exchanges (fun tail => rowAhead_exchanges (.line z tail)
          (block_exchanges (.line z tail) levels) _ _ _) ahead
      refine (more.after breaks).imp ?_
      rintro y w r rfl ⟨u, ahead', t, rows, b, layout, -, list, closed⟩
      have ahead' := ahead'.append layout
      exact ⟨_, row :: rows, b, .done, ahead.assigns_of_break ahead', ahead'.rowList list, closed⟩

end

/-- Blocks that break off can be completed, level by level. -/
theorem blocks_completable (limit : Int) (levels : Nat) : BlocksCompletable limit levels z := by
  induction levels with
  | zero =>
    rintro body ⟨⟩
  | succ levels step =>
    rintro body ⟨⟩ s shallow missed
    obtain ⟨comments, t, layout, solid, refused⟩ := misses_comments_bind missed
    have rows := rows_completable step solid (shallow levels t rfl layout.gap) refused
    refine (rows.after layout.breaks).imp ?_
    rintro y w r - ⟨u, layout', t, rows, b, layout, -, list, closed⟩
    exact ⟨rows, b, ⟨comments, t, by simpa using layout'.append layout, list⟩, closed⟩

end Reader

end SeqChart
