import SeqChart.Proofs.Grammar.TooDeep
import SeqChart.Proofs.Reading.Faults
import SeqChart.Proofs.Reading.Openings
import SeqChart.Proofs.Text.Folding
/-!
Texts that no reading gets past. Main statement, `braced_refuses`: behind the keyword of an inline
expression that is too deep a chart can go on in no way.
-/

namespace SeqChart

open Grammar

namespace Grammar

/-- The comments of an arc are no matter of its text. -/
theorem ArcItem.with_comments {Block : List Char → Rows String String → List Char → Prop}
    {before : List String} {s r : List Char} {a : Arc String String}
    (item : ArcItem Block before s a r) (before' : List String) :
    ∃ a', ArcItem Block before' s a' r ∧ a'.isInline = a.isInline := by
  cases item with
  | empty stands => exact ⟨_, .empty stands, rfl⟩
  | message ended gap operator gap' ended' stands =>
    exact ⟨_, .message ended gap operator gap' ended' stands, rfl⟩
  | box named other gap keyword gap' named' stands =>
    exact ⟨_, .box named other gap keyword gap' named' stands, rfl⟩
  | inline named other gap keyword gap' named' stands opened inside closed =>
    exact ⟨_, .inline named other gap keyword gap' named' stands opened inside closed, rfl⟩

end Grammar

namespace Reader

variable {α β σ : Type} {s : List Char} {limit : Int}

/-! ## Readers that fail -/

def Refuses (p : Reader α) (s : List Char) : Prop := ∃ fault, p s = .error fault

/-- Whatever the first reader takes, the next one fails. -/
theorem refuses_bind {p : Reader α} {f : α → Reader β}
    (next : ∀ a r, p s = .ok (a, r) → Refuses (f a) r) : Refuses (p >>= f) s := by
  cases outcome : p s with
  | error fault => exact ⟨fault, bind_eq_error_iff.2 (.inl outcome)⟩
  | ok result =>
    obtain ⟨fault, failed⟩ := next _ _ outcome
    exact ⟨fault, bind_eq_error_iff.2 (.inr ⟨_, _, outcome, failed⟩)⟩

theorem Refuses.bind {p : Reader α} {f : α → Reader β} (refuses : Refuses p s) :
    Refuses (p >>= f) s := by
  obtain ⟨fault, failed⟩ := refuses
  exact ⟨fault, bind_eq_error_iff.2 (.inl failed)⟩

theorem refuses_bind_of_ok {p : Reader α} {f : α → Reader β} {a : α} {r : List Char}
    (read : p s = .ok (a, r)) (next : Refuses (f a) r) : Refuses (p >>= f) s := by
  rwa [Refuses, bind_of_ok read]

section

variable {item : σ → Reader (α × Option σ)} {advances : ∀ x, Advances (item x)} {x y : σ}

theorem chain_refuses (refuses : Refuses (item x) s) : Refuses (chain item advances x) s := by
  obtain ⟨fault, failed⟩ := refuses
  exact ⟨fault, by rw [chain_eq, failed]⟩

theorem chain_refuses_next {a : α} {r : List Char} (read : item x s = .ok ((a, some y), r))
    (refuses : Refuses (chain item advances y) r) : Refuses (chain item advances x) s := by
  obtain ⟨fault, failed⟩ := refuses
  refine ⟨fault, ?_⟩
  rw [chain_eq, read]
  dsimp only
  rw [failed]
  rfl

end

/-! ## Rows -/

section

variable {inner : Option Body} {before next : List String} {a : Arc String String} {v : List Char}

/-- Rows, read one after another. -/
abbrev rowChain (limit : Int) (inner : Option Body) (before : List String) :
    Reader (Rows String String) :=
  chain (rowAndNext limit inner) (advances_rowAndNext limit inner) before

theorem rowChain_refuses_of_arc (refuses : Refuses (arc limit inner before) s) :
    Refuses (rowChain limit inner before) s :=
  chain_refuses (Refuses.bind (p := row limit inner before) (chain_refuses refuses.bind))

/-- A row goes on behind a comma as a row of its own would. -/
theorem rowAndNext_of_comma
    (read : listed (arc limit inner) ';' Arc.isInline before s = .ok ((a, some next), v)) :
    rowAndNext limit inner before s =
      (rowAndNext limit inner next v).map fun ((row, more), r) => ((a :: row, more), r) := by
  have step : row limit inner before s =
      (row limit inner next v).map fun (row, r) => (a :: row, r) := by
    rw [row, series, chain_eq, read]
    rfl
  rw [rowAndNext, rowAndNext, bind_apply, bind_apply, step]
  cases row limit inner next v with
  | error => rfl
  | ok result =>
    obtain ⟨row, r⟩ := result
    dsimp only [Except.map]
    rw [bind_apply, bind_apply]
    cases comments r <;> rfl

theorem rowChain_refuses_of_comma
    (read : listed (arc limit inner) ';' Arc.isInline before s = .ok ((a, some next), v))
    (refuses : Refuses (rowChain limit inner next) v) :
    Refuses (rowChain limit inner before) s := by
  obtain ⟨fault, failed⟩ := refuses
  refine ⟨fault, ?_⟩
  rw [rowChain, chain_eq] at failed ⊢
  rw [rowAndNext_of_comma read]
  cases outcome : rowAndNext limit inner next v with
  | error e =>
    rw [outcome] at failed
    exact failed
  | ok result =>
    obtain ⟨⟨row, more⟩, r⟩ := result
    rw [outcome] at failed
    cases more with
    | none => cases failed
    | some more => exact Except.map_eq_error_iff.2 (Except.map_eq_error_iff.1 failed)

/-- Behind a row, rows that cannot be read follow. -/
theorem rowChain_refuses_of_row {u : List Char}
    (read : listed (arc limit inner) ';' Arc.isInline before s = .ok ((a, none), u))
    (layout : Layout u next v) (solid : Solid v) (goesOn : atEnd v = false)
    (refuses : Refuses (rowChain limit inner next) v) :
    Refuses (rowChain limit inner before) s := by
  refine chain_refuses_next (a := [a]) (y := next) (r := v) ?_ refuses
  have taken : row limit inner before s = .ok ([a], u) := by
    rw [row, series, chain_eq, read]
  rw [rowAndNext, bind_of_ok taken, bind_of_ok (comments_eq_ok_iff.2 ⟨layout, solid⟩), get_bind,
    goesOn]
  rfl

end

/-! ## Where an inline expression is too deep -/

/-- The rows that start at `s'` cannot be read. They start like those at `s`, which they
stand for. -/
structure Barred (limit : Int) (levels : Nat) (s s' : List Char) : Prop where
  refuses : ∀ before, Refuses (rowChain limit (inside limit levels) before) s'
  starts : ∃ c rest, s' = c :: rest ∧ startsArc c = true
  noEntities : atEntity s' = .ok (false, s')
  assigns : Assigns s' → Assigns s

/-- Where no level is left an inline expression is refused behind its keyword, whatever stands
there. -/
theorem block_refuses (kind : InlineKind) (source : String) (before : List String) :
    Refuses (block limit none (.inr kind) source before) s :=
  refuses_bind fun _ _ _ => refuses_bind fun _ _ _ => ⟨_, rfl⟩

/-- A longer keyword is none of a box, and the same inline expression if it is one of those. -/
theorem inline_of_longer {kind : InlineKind} {kind' : BoxKind ⊕ InlineKind} {w t : List Char}
    (lowered : Text.lowerText (String.ofList w) = kind.token)
    (lowered' : Text.lowerText (String.ofList (w ++ t)) = blockToken kind') :
    ∃ inline, kind' = .inr inline := by
  have lower : Text.lower w = kind.token.toList := by
    simpa [Text.lowerText] using congrArg String.toList lowered
  have lower' : Text.lower (w ++ t) = (blockToken kind').toList := by
    simpa [Text.lowerText] using congrArg String.toList lowered'
  have plain : ∀ kind ∈ InlineKind.all, 'ς' ∉ kind.token.toList ∧ 'σ' ∉ kind.token.toList := by
    decide
  obtain ⟨noFinal, noSmall⟩ := plain kind (InlineKind.mem_all kind)
  rw [← lower] at noFinal noSmall
  have longer : Text.lower w <+: Text.lower (w ++ t) := Text.lowerFrom_prefix noFinal noSmall t
  have inline : ∀ kind ∈ InlineKind.all, ∀ kind' ∈ blockKinds,
      kind.token.toList <+: (blockToken kind').toList → kind'.isRight = true := by decide
  refine Sum.isRight_iff.1 (inline kind (InlineKind.mem_all kind) kind' (mem_blockKinds kind') ?_)
  rw [← lower, ← lower']
  exact longer

/-- What stands behind the name with which an inline expression starts is no entity and
no option. -/
theorem barred_of_name {levels : Nat} {s s' t u : List Char} {n : String} {c : Char}
    (named : Name s' n t) (gap : Gap t (c :: u)) (letter : Text.isWord c = true)
    (refuses : ∀ before, Refuses (rowChain limit (inside limit levels) before) s') :
    Barred limit levels s s' where
  refuses := refuses
  starts := by
    obtain ⟨d, rest, text, first⟩ := named.head
    exact ⟨d, rest, text, startsArc_of_end (.inr first)⟩
  noEntities := by
    rw [atEntity_of_name named gap (solid_cons (isPlain_of_isWord letter))]
    have other {d : Char} (no : Text.isWord d = false) : c ≠ d := by
      rintro rfl
      exact absurd letter (by simp [no])
    have comma : c ≠ ',' := other (by decide)
    have semicolon : c ≠ ';' := other (by decide)
    have bracket : c ≠ '[' := other (by decide)
    simp [comma, semicolon, bracket]
  assigns := by
    rintro ⟨w, t', v, word, equals⟩
    obtain rfl := named.of_word word
    obtain ⟨rfl, -⟩ := List.cons.inj (Gap.unique gap (solid_cons (isPlain_of_isWord letter)) equals
      (solid_equals v))
    exact absurd letter (by decide)

section

variable {levels : Nat} {s' : List Char} (barred : Barred limit levels s s')

include barred

theorem Barred.solid : Solid s' := by
  obtain ⟨c, rest, rfl, starts⟩ := barred.starts
  exact solid_cons (isPlain_of_startsArc starts)

theorem Barred.other {d : Char} (no : startsArc d = false) : ∀ c ∈ s'.head?, c ≠ d := by
  obtain ⟨c, rest, rfl, starts⟩ := barred.starts
  rintro _ ⟨⟩ rfl
  exact absurd starts (by simp [no])

theorem Barred.goesOn : atEnd s' = false := by
  have other := barred.other (d := '\x7d') (by decide)
  obtain ⟨c, rest, rfl, -⟩ := barred.starts
  simpa [atEnd] using other c rfl

theorem Barred.rows_refuses (before : List String) :
    Refuses (rows limit (inside limit levels) before) s' := by
  rw [Refuses, rows, get_bind, barred.goesOn]
  exact barred.refuses before

end

/-- Behind the keyword of an inline expression for which no level is left, nothing can be read. -/
theorem arc_refuses_of_keyword {kind : InlineKind} {source : String} {before : List String}
    {s u w t : List Char} {c : Char} (named : Name s source u) (other : source ≠ broadcast)
    (gap : Gap u (c :: (w ++ t))) (letters : ∀ d ∈ c :: w, Text.isWord d = true)
    (lowered : Text.lowerText (String.ofList (c :: w)) = kind.token) (apart : c ≠ 'x') :
    Refuses (arc limit none before) s := by
  have word :
      Word (c :: (w ++ t)) (c :: w ++ t.takeWhile Text.isWord) (t.dropWhile Text.isWord) := by
    refine ⟨?_, by simp, fun d member => ?_, stops_dropWhile Text.isWord t⟩
    · rw [List.append_assoc, List.takeWhile_append_dropWhile]
      rfl
    · rcases List.mem_append.1 member with inside | behind
      · exact letters d inside
      · exact List.mem_takeWhile_imp behind
  have operator := acceptAny_operator_of_word word (by simp [apart])
  rw [Refuses, arc_of_end (Gap.refl s) (.name named), arcFrom]
  refine refuses_bind_of_ok (skipLayout_of_gap gap word.solid) (refuses_bind_of_ok operator ?_)
  rcases keyword?_cases blockToken blockKinds (c :: (w ++ t)) with absent | ⟨kind', read⟩
  · exact refuses_bind_of_ok absent ⟨_, rfl⟩
  · obtain ⟨w', word', lowered'⟩ := (keyword_of_keyword? blockToken_ne read).2
    obtain rfl := (word.unique word').1
    obtain ⟨inline, rfl⟩ := inline_of_longer lowered lowered'
    refine refuses_bind_of_ok read ?_
    dsimp only
    rw [if_neg other]
    exact block_refuses inline source before

/-- No operator has a letter in it that an inline expression starts with. -/
theorem keyword_apart {kind : InlineKind} {c : Char} {w : List Char} (letter : Text.isWord c = true)
    (lowered : Text.lowerText (String.ofList (c :: w)) = kind.token) (operator : ArcKind) :
    c ∉ operator.token.toList := by
  have onlyX : ∀ kind ∈ ArcKind.all,
      kind.token.toList.all (fun d => !Text.isWord d || d == 'x') = true := by decide
  intro member
  have x := List.all_eq_true.1 (onlyX operator (ArcKind.mem_all operator)) c member
  obtain rfl : c = 'x' := by simpa [letter] using x
  have lower : Text.lower ('x' :: w) = kind.token.toList := by
    simpa [Text.lowerText] using congrArg String.toList lowered
  have first : kind.token.toList.head? = some 'x' := by
    rw [← lower, Text.lower, Text.lowerFrom, if_neg (by decide), if_neg (by decide)]
    rfl
  have other : ∀ kind ∈ InlineKind.all, kind.token.toList.head? ≠ some 'x' := by decide
  exact other kind (InlineKind.mem_all kind) first

/-- An inline expression is refused with the rows of its block. -/
theorem arc_refuses_of_inside {levels : Nat} {kind : InlineKind} {source target : String}
    {attrs : Mapping String String} {before texts : List String} {s' u v v' : List Char}
    (head : InlineHead s' kind source target attrs u) (layout : Layout u texts v')
    (barred : Barred limit levels v v') :
    Refuses (arc limit (inside limit (levels + 1)) before) s' := by
  obtain ⟨⟨named, other, gap, keyword⟩, gap', named', stands, opened⟩ := head
  obtain ⟨x, taken, after⟩ := attributes_complete stands opened (solid_brace _) (by simp)
  rw [Refuses, arc_of_keyword (.inr kind) (Gap.refl s') named other gap keyword, block]
  refine refuses_bind_of_ok (name_eq_ok_iff.2 ⟨_, gap', named'⟩) (refuses_bind_of_ok taken ?_)
  refine refuses_bind_of_ok ((expect_eq_ok_iff solid_brace).2 after) (Refuses.bind ?_)
  exact refuses_bind_of_ok (comments_eq_ok_iff.2 ⟨layout, barred.solid⟩) (barred.rows_refuses texts)

/-- Where an arc is the same in both texts, what follows it decides. -/
theorem barred_of_arc {levels : Nat} {before : List String} {x z z' t t' : List Char}
    {a : Arc String String} (item : ArcItem (Grammar.Block levels) before (x ++ z) a t)
    (item' : ArcItem (Grammar.Block levels) before (x ++ z') a t') (head : z'.head? = z.head?)
    (refuses : ∀ before' a', a'.isInline = a.isInline →
      ArcItem (Grammar.Block levels) before' (x ++ z') a' t' →
      Refuses (rowChain limit (inside limit levels) before') (x ++ z')) :
    Barred limit levels (x ++ z) (x ++ z') where
  refuses := by
    intro before'
    obtain ⟨a', item, inline⟩ := item'.with_comments before'
    exact refuses before' a' inline item
  starts := item'.starts
  noEntities := atEntity_of_arc item'
  assigns := by
    intro assigns
    obtain ⟨starts, equals⟩ := item'.assigns_iff.1 assigns
    refine item.assigns_iff.2 ⟨?_, equals⟩
    cases x with
    | nil => rwa [StartsWord, List.nil_append, ← head]
    | cons c x => exact starts

/-- The rows at `s` stand in front of a keyword that ends at `r`, and cannot be read whatever stands
behind it. The keyword starts with a character that is part of no operator, so that a text may be
exchanged from there on. -/
def Bars (limit : Int) (levels : Nat) (s r : List Char) : Prop :=
  ∃ x c w, s = x ++ c :: (w ++ r) ∧ (∀ kind : ArcKind, c ∉ kind.token.toList) ∧
    ∀ t, Barred limit levels s (x ++ c :: (w ++ t))

section

variable {levels : Nat} {before : List String} {r u v : List Char} {kind : InlineKind}
  {source target : String} {attrs : Mapping String String} {a : Arc String String}

theorem bars_of_start (start : InlineStart s kind source r) : Bars limit 0 s r := by
  obtain ⟨named, other, gap, w, word, lowered⟩ := start
  cases w with
  | nil => exact absurd rfl word.nonempty
  | cons c w =>
    obtain rfl := word.text
    have letter := word.letters c (by simp)
    have apart := keyword_apart letter lowered
    obtain ⟨x, text, took⟩ := exists_exchange (R := Relation.Comp (Name · source ·) Gap) (y := [])
      (fun t => (name_exchanges (.same apart (w ++ r) (w ++ t)) _).comp
        (gap_exchanges (.same apart (w ++ r) (w ++ t)))) ⟨_, named, gap⟩
    refine ⟨x, c, w, text, apart, fun t => ?_⟩
    obtain ⟨u, named, gap⟩ := took t
    refine barred_of_name named gap letter fun before => ?_
    refine rowChain_refuses_of_arc (arc_refuses_of_keyword named other gap word.letters lowered ?_)
    rintro rfl
    exact apart .lost (by decide)

theorem bars_of_head (head : InlineHead s kind source target attrs u) (gap : Gap u v)
    (bars : Bars limit levels v r) : Bars limit (levels + 1) s r := by
  obtain ⟨y, c, w, rfl, apart, barred⟩ := bars
  obtain ⟨x, text, took⟩ := exists_exchange
    (R := Relation.Comp (InlineHead · kind source target attrs ·) Gap)
    (fun t => (inlineHead_exchanges (.same apart (w ++ r) (w ++ t)) _ _ _ _).comp
      (gap_exchanges (.same apart (w ++ r) (w ++ t)))) ⟨_, head, gap⟩
  refine ⟨x, c, w, text, apart, fun t => ?_⟩
  obtain ⟨u, head, texts, layout⟩ := took t
  have refuses (before : List String) : Refuses (arc limit (inside limit (levels + 1)) before) _ :=
    arc_refuses_of_inside head layout (barred t)
  obtain ⟨⟨named, -, gap, _, word, -⟩, -⟩ := head
  obtain ⟨d, rest, rfl, letter⟩ := word.head
  exact barred_of_name named gap letter fun before => rowChain_refuses_of_arc (refuses before)

theorem bars_of_next {c : Char} {t : List Char}
    (item : ArcItem (Grammar.Block levels) before s a t) (separates : c = ',' ∨ c = ';')
    (separated : Gap t (c :: u)) (gap : Gap u v) (bars : Bars limit levels v r) :
    Bars limit levels s r := by
  obtain ⟨y, d, w, rfl, apart, barred⟩ := bars
  obtain ⟨x, rfl, took⟩ := exists_exchange (y := y)
    (R := Relation.Comp (ArcItem (Grammar.Block levels) before · a ·)
      (Relation.Comp (fun t u => Gap t (c :: u)) Gap))
    (fun t => have exchange := .same apart (w ++ r) (w ++ t)
      (arcItem_exchanges exchange (block_exchanges exchange levels) _ _).comp
        ((gap_cons_exchanges exchange c).comp (gap_exchanges exchange)))
        ⟨_, item, _, separated, gap⟩
  refine ⟨x, d, w, rfl, apart, fun t => ?_⟩
  obtain ⟨u, item', v, separated, texts, layout⟩ := took t
  refine barred_of_arc item item' rfl fun before' a' _ item' => ?_
  have recognised := arc_recognises (admits_inside limit levels) limit
  have barred := barred t
  rcases separates with rfl | rfl
  · exact rowChain_refuses_of_comma (listed_of_comma recognised (by decide) (Gap.refl _) item'
      separated layout barred.solid) (barred.refuses texts)
  · exact rowChain_refuses_of_row (listed_of_close recognised (by decide) (by decide) (Gap.refl _)
      item' separated) layout barred.solid barred.goesOn (barred.refuses texts)

theorem bars_of_unclosed {t : List Char} (item : ArcItem (Grammar.Block levels) before s a t)
    (inline : a.isInline = true) (gap : Gap t v) (bars : Bars limit levels v r) :
    Bars limit levels s r := by
  obtain ⟨y, c, w, rfl, apart, barred⟩ := bars
  obtain ⟨x, rfl, took⟩ := exists_exchange (y := y)
    (R := Relation.Comp (ArcItem (Grammar.Block levels) before · a ·) Gap)
    (fun t => have exchange := .same apart (w ++ r) (w ++ t)
      (arcItem_exchanges exchange (block_exchanges exchange levels) _ _).comp
        (gap_exchanges exchange)) ⟨_, item, gap⟩
  refine ⟨x, c, w, rfl, apart, fun t => ?_⟩
  obtain ⟨u, item', gap⟩ := took t
  refine barred_of_arc item item' rfl fun before' a' same item' => ?_
  have recognised := arc_recognises (admits_inside limit levels) limit
  have barred := barred t
  refine rowChain_refuses_of_row (listed_of_open recognised (same.trans inline) (Gap.refl _) item'
    gap barred.solid fun d first => ?_) .done barred.solid barred.goesOn (barred.refuses [])
  exact ⟨barred.other (by decide) d first, barred.other (by decide) d first,
    barred.other (by decide) d first⟩

end

/-- From the keyword of an inline expression that is too deep, rows cannot be read, whatever stands
behind it. -/
theorem bars_of_tooDeep {levels : Nat} {s r : List Char} (deep : TooDeep levels s r) :
    Bars limit levels s r := by
  induction deep with
  | here start => exact bars_of_start start
  | inside head gap _ step => exact bars_of_head head gap step
  | next item separates separated gap _ step => exact bars_of_next item separates separated gap step
  | unclosed item inline gap _ step => exact bars_of_unclosed item inline gap step

/-! ## Charts -/

section

variable {before between after : List String} {s' t t' u u' : List Char}
  {options : Options String Bool String} {entities : List (Entity String String)}

theorem entitiesAndRows_refuses (part : EntitiesPart between t' entities after u')
    (barred : Barred limit limit.toNat u u') :
    Refuses (entitiesAndRows limit between) t' := by
  cases part with
  | present list closed layout =>
    rw [Refuses, entitiesAndRows, entitiesPart_of_list list closed]
    refine refuses_bind_of_ok (comments_eq_ok_iff.2 ⟨layout, barred.solid⟩) ?_
    exact (barred.rows_refuses after).bind
  | absent =>
    refine refuses_bind_of_ok (entitiesPart_of_absent barred.noEntities) ?_
    exact (barred.rows_refuses between).bind

theorem content_refuses (part : OptionsPart before s' options between t')
    (other : options = {} → ¬ Assigns s') (part' : EntitiesPart between t' entities after u')
    (barred : Barred limit limit.toNat u u') : Refuses (content limit before) s' := by
  have refuses := entitiesAndRows_refuses part' barred
  cases part with
  | present list closed layout =>
    rw [Refuses, content, optionsPart_of_list list closed]
    exact refuses_bind_of_ok (comments_eq_ok_iff.2 ⟨layout, part'.solid barred.solid⟩) refuses.bind
  | absent =>
    cases outcome : atOption s' with
    | error fault => exact (Refuses.bind ⟨fault, outcome⟩ : Refuses (optionsPart before) s').bind
    | ok result =>
      obtain ⟨found, r⟩ := result
      cases found with
      | true => exact absurd (assigns_of_atOption outcome) (other rfl)
      | false =>
        obtain ⟨rfl, -⟩ := not_assigns_of_atOption outcome
        exact refuses_bind_of_ok (optionsPart_of_absent outcome) refuses.bind

/-- Where rows do not look like an option, what is before them does not, if other rows make
it so. -/
theorem not_assigns_of_barred (part : OptionsPart before s options between t)
    (part' : OptionsPart before s' options between t') (other : options = {} → ¬ Assigns s)
    (list : EntitiesPart between t entities after u)
    (list' : EntitiesPart between t' entities after u') (barred : Barred limit limit.toNat u u') :
    options = {} → ¬ Assigns s' := by
  rintro rfl assigns
  obtain rfl := part.eq_of_unset
  obtain rfl := part'.eq_of_unset
  by_cases none : entities = []
  · subst none
    obtain rfl := list.eq_of_nil
    obtain rfl := list'.eq_of_nil
    exact other rfl (barred.assigns assigns)
  · exact list'.not_assigns_of_ne_nil none assigns

end

/-- From the keyword of an inline expression that is too deep, no chart can be read, whatever stands
behind it. -/
theorem braced_refuses {source r : List Char} (overflows : Overflows limit.toNat source r) :
    ∃ front, source = front ++ r ∧ ∀ t, Refuses (braced limit) (front ++ t) := by
  obtain @⟨head, before, between, after, _, _, _, _, _, _, _, _, options, entities, layout, keyword,
    opened, inside, part, other, list, deep⟩ := overflows
  obtain ⟨y, c, w, rfl, apart, barred⟩ : Bars limit _ _ r := bars_of_tooDeep deep
  obtain ⟨x, rfl, took⟩ := exists_exchange (y := y)
    (R := Relation.Comp (Layout · head ·) (Relation.Comp (Keyword "msc")
      (Relation.Comp (fun s r => Gap s ('\x7b' :: r)) (Relation.Comp (Layout · before ·)
        (Relation.Comp (OptionsPart before · options between ·)
          (EntitiesPart between · entities after ·))))))
    (fun t => have exchange := .same apart (w ++ r) (w ++ t)
      (layout_exchanges exchange _).comp ((keyword_exchanges exchange _).comp
        ((gap_cons_exchanges exchange _).comp ((layout_exchanges exchange _).comp
          ((optionsPart_exchanges exchange _ _ _).comp (entitiesPart_exchanges exchange _ _ _))))))
    ⟨_, layout, _, keyword, _, opened, _, inside, _, part, list⟩
  refine ⟨x ++ c :: w, by simp, fun t => ?_⟩
  obtain ⟨_, layout', _, keyword', _, opened', _, inside', _, part', list'⟩ := took t
  have barred := barred t
  have refuses := content_refuses part' (not_assigns_of_barred part part' other list list' barred)
    list' barred
  have solid := part'.solid (list'.solid barred.solid)
  rw [List.append_assoc, List.cons_append, Refuses, braced]
  refine refuses_bind_of_ok (comments_eq_ok_iff.2 ⟨layout', keyword'.solid⟩)
    (refuses_bind_of_ok (keyword?_msc keyword') ?_)
  rw [if_neg (by simp)]
  exact refuses_bind_of_ok ((expect_eq_ok_iff solid_brace).2 opened')
    (refuses_bind_of_ok (comments_eq_ok_iff.2 ⟨inside', solid⟩) refuses.bind)

end Reader

end SeqChart
