import SeqChart.Proofs.Grammar.Extension
import SeqChart.Proofs.Reading.Chart
/-!
Reading a text that goes on. Main statement, `braced_append`: what is read up to the closing brace
of a chart does not depend on the text behind it.

The rules of the grammar look no further than that brace. Whether options are looked for depends on
a look ahead past layout, which could get past it; `not_assigns_append` is why it does not.
-/

namespace SeqChart

open Grammar

namespace Grammar

/-- Two characters decide whether layout starts. -/
theorem Solid.cons_cons {c d : Char} {s : List Char} (solid : Solid (c :: d :: s))
    (t : List Char) : Solid (c :: d :: t) := by
  unfold Solid at solid ⊢
  split
  · rename_i same
    cases same
    exact solid
  · rename_i same
    cases same
    exact solid
  · rename_i same
    cases same
    exact solid
  · rename_i same
    cases same
    split at solid <;> simp_all
  · trivial

theorem Solid.append {s : List Char} (solid : Solid s) (left : Pending s) (t : List Char) :
    Solid (s ++ t) := by
  match s, solid with
  | [], _ => exact absurd rfl left.ne_nil
  | [c], _ =>
    obtain rfl : '\x7d' = c := by simpa [Pending] using left
    exact solid_cons rfl
  | c :: d :: s, solid => exact solid.cons_cons (s ++ t)

variable {Block : List Char → Rows String String → List Char → Prop}

/-- No equals sign comes to stand behind the first word of entities or rows. -/
theorem not_assigns_append {before after : List String} {s t r : List Char}
    {es : List (Entity String String)} {all : Rows String String}
    (part : EntitiesPart before s es after t) (list : RowList Block after t all ('\x7d' :: r))
    (left : Pending s) (other : ¬ Assigns s) (more : List Char) : ¬ Assigns (s ++ more) := by
  intro assigns
  obtain ⟨w, u, v, word, equals⟩ := assigns
  -- The word that stands in the longer text is the word that stands here.
  have letter : s.takeWhile Text.isWord ≠ [] := by
    cases s with
    | nil => exact absurd rfl left.ne_nil
    | cons c s =>
      obtain ⟨d, rest, same, letter⟩ := word.head
      rw [(List.cons.inj same).1, List.takeWhile_cons, if_pos letter]
      exact List.cons_ne_nil _ _
  have word' := word_of_takeWhile letter
  have left' : Pending (s.dropWhile Text.isWord) := by
    rw [word'.text] at left
    refine (List.mem_append.1 left).resolve_left fun member => ?_
    exact absurd (word'.letters _ member) (by decide)
  obtain ⟨-, rfl⟩ := word.unique ((word_extends _ word' left').2 more)
  -- What follows it here is no layout, and no equals sign.
  obtain ⟨c, x, gap, plain⟩ := Reader.plain_behind_statements part list _ _ word'
  obtain ⟨comments, layout⟩ := gap
  have gap' : Gap (s.dropWhile Text.isWord ++ more) (c :: (x ++ more)) :=
    ⟨comments, layout.append_right (List.cons_ne_nil c x) more⟩
  obtain ⟨rfl, -⟩ :=
    List.cons.inj (Reader.Gap.unique equals (Reader.solid_equals v) gap' (solid_cons plain))
  exact other ⟨_, _, x, word', comments, layout⟩

end Grammar

namespace Reader

variable {limit : Int}

/-- Where the brace of a chart without options opens on no option, it does so in a longer text. -/
theorem not_assigns_append_of_content {before : List String} {s r : List Char} {more : List Char}
    {c : Content String String (Options String Bool String)} (solid : Solid s)
    (read : content limit before s = .ok (c, r)) (closed : Gap r ('\x7d' :: more))
    (left : Pending s) (unset : c.options = {}) (t : List Char) : ¬ Assigns (s ++ t) := by
  rw [content, bind_eq_ok_iff] at read
  obtain ⟨⟨options, between⟩, u, first, read⟩ := read
  obtain ⟨⟨es, all⟩, v, second, read⟩ := bind_eq_ok_iff.1 read
  obtain ⟨rfl, rfl⟩ := pure_eq_ok_iff.1 read
  obtain ⟨part, solid', other⟩ := optionsPart_sound solid first
  obtain ⟨after, w, part', list, solid''⟩ := entitiesAndRows_sound solid' second
  obtain rfl := Gap.unique (Gap.refl v) solid'' closed (solid_brace' more)
  cases part with
  | absent => exact not_assigns_append part' list left (other unset) t
  | present listed _ _ =>
    obtain ⟨x, y, item⟩ := listed.first
    exact absurd (assigns_of_option item) (other unset)

/-- What has been read up to its closing brace stays as it is, whatever follows. -/
theorem braced_append {source r : List Char} {c : Chart} (read : braced limit source = .ok (c, r))
    (more : List Char) : braced limit (source ++ more) = .ok (c, r ++ more) := by
  obtain ⟨closing, -⟩ := braced_eq_ok_iff.1 read
  refine braced_eq_ok_iff.2 ⟨closing.append more, fun unset opens => ?_⟩
  obtain ⟨before, s, t, u, v, w, inside, layout, keyword, opened, layout', solid, taken, closed,
    rfl⟩ := parts_of_braced read
  have body := (content_sound solid taken).1
  have left := (gap_extends closed (pending_brace r)).1
  have left := (body_extends _ _ _ body left).1
  have other := not_assigns_append_of_content solid taken closed left unset more
  obtain ⟨left', layout'⟩ := layout_extends _ layout' left
  obtain ⟨left', opened⟩ := gap_extends opened (left'.cons _)
  obtain ⟨left', keyword⟩ := keyword_extends _ keyword left'
  obtain ⟨-, layout⟩ := layout_extends _ layout left'
  exact other (assigns_of_opens opens (layout more) (keyword more) (opened more) (layout' more)
    (solid.append left more))

end Reader

end SeqChart
