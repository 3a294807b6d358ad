import Mathlib.Data.List.TakeWhile
import SeqChart.Proofs.Grammar.Lexis
import SeqChart.Reader.Layout
/-!
Reading layout. Main statement, `comments_eq_ok_iff`: the comments that are read are those of the
whole layout that stands there. Readers that go past layout first are described by where the layout
leads to.
-/

namespace SeqChart

open Grammar

namespace Reader

variable {α β : Type}

/-! ## Composed readers and tokens -/

theorem bind_eq_ok_iff {p : Reader α} {f : α → Reader β} {s t : List Char} {b : β} :
    (p >>= f) s = .ok (b, t) ↔ ∃ a r, p s = .ok (a, r) ∧ f a r = .ok (b, t) := by
  rw [bind_apply]
  cases p s with
  | error e => simp
  | ok result =>
    obtain ⟨a, r⟩ := result
    constructor
    · exact fun read => ⟨a, r, rfl, read⟩
    · rintro ⟨a', r', same, read⟩
      cases same
      exact read

theorem bind_of_ok {p : Reader α} {s r : List Char} {a : α} (read : p s = .ok (a, r))
    (f : α → Reader β) : (p >>= f) s = f a r := by
  rw [bind_apply, read]

theorem get_bind (f : List Char → Reader α) (s : List Char) :
    ((get : Reader (List Char)) >>= f) s = f s s := rfl

theorem pure_eq_ok_iff {a b : α} {s r : List Char} :
    (pure a : Reader α) s = .ok (b, r) ↔ a = b ∧ s = r :=
  ⟨fun read => Prod.mk.inj (Except.ok.inj read), fun same => same.1 ▸ same.2 ▸ rfl⟩

theorem after?_eq_none_iff {token s : List Char} : after? token s = none ↔ ¬ token <+: s := by
  constructor
  · rintro nothing ⟨r, rfl⟩
    rw [after?_append] at nothing
    cases nothing
  · intro absent
    cases found : after? token s with
    | none => rfl
    | some r => exact absurd ⟨r, (suffix_of_after? found).symm⟩ absent

theorem accept_append (token r : List Char) : accept token (token ++ r) = .ok (true, r) := by
  rw [accept, after?_append]

theorem accept_cons (c : Char) (r : List Char) : accept [c] (c :: r) = .ok (true, r) :=
  accept_append [c] r

theorem accept_of_absent {token s : List Char} (absent : ¬ token <+: s) :
    accept token s = .ok (false, s) := by
  rw [accept, after?_eq_none_iff.2 absent]

theorem accept_eq_true {token s r : List Char} (read : accept token s = .ok (true, r)) :
    s = token ++ r := by
  rw [accept] at read
  split at read
  · rename_i rest found
    cases read
    exact suffix_of_after? found
  · cases read

theorem accept_eq_false {token s r : List Char} (read : accept token s = .ok (false, r)) :
    r = s ∧ ¬ token <+: s := by
  rw [accept] at read
  split at read
  · cases read
  · rename_i nothing
    cases read
    exact ⟨rfl, after?_eq_none_iff.1 nothing⟩

theorem not_prefix_of_head {c : Char} {s : List Char} (other : s.head? ≠ some c) : ¬ [c] <+: s := by
  rintro ⟨r, rfl⟩
  exact other rfl

theorem accept_head {c : Char} {s : List Char} (other : s.head? ≠ some c) :
    accept [c] s = .ok (false, s) :=
  accept_of_absent (not_prefix_of_head other)

end Reader

/-! ## Where no layout starts -/

namespace Grammar

/-- A character that neither is blank nor starts a comment. -/
def isPlain (c : Char) : Bool := !Text.isBlank c && c != '#' && c != '/'

theorem solid_nil : Solid [] := trivial

theorem solid_cons {c : Char} {s : List Char} (plain : isPlain c = true) : Solid (c :: s) := by
  simp only [isPlain, Bool.and_eq_true, Bool.not_eq_true', bne_iff_ne] at plain
  obtain ⟨⟨notBlank, notHash⟩, notSlash⟩ := plain
  unfold Solid
  split
  · rename_i same
    exact notHash (List.cons.inj same).1
  · rename_i same
    exact notSlash (List.cons.inj same).1
  · rename_i same
    exact notSlash (List.cons.inj same).1
  · rename_i same
    exact (List.cons.inj same).1 ▸ notBlank
  · trivial

theorem Solid.head {c : Char} {s : List Char} (solid : Solid (c :: s)) :
    Text.isBlank c = false := by
  unfold Solid at solid
  split at solid
  · cases solid
  · cases solid
  · cases solid
  · rename_i same
    exact (List.cons.inj same).1 ▸ solid
  · rename_i same
    cases same

theorem Solid.dropWhile {s : List Char} (solid : Solid s) : s.dropWhile Text.isBlank = s := by
  cases s with
  | nil => rfl
  | cons c s => rw [List.dropWhile_cons, if_neg (by simp [solid.head])]

theorem Layout.append {s t r : List Char} {first second : List String} (layout : Layout s first t)
    (more : Layout t second r) : Layout s (first ++ second) r := by
  induction layout with
  | done => exact more
  | blank blank _ step => exact .blank blank (step more)
  | block closed _ step => exact .block closed (step more)
  | line inLine ends _ step => exact .line inLine ends (step more)

theorem Gap.refl (s : List Char) : Gap s s := ⟨[], .done⟩

theorem Layout.gap {s r : List Char} {comments : List String} (layout : Layout s comments r) :
    Gap s r := ⟨comments, layout⟩

theorem Gap.trans {s t r : List Char} (first : Gap s t) (second : Gap t r) : Gap s r := by
  obtain ⟨comments, layout⟩ := first
  obtain ⟨comments', layout'⟩ := second
  exact (layout.append layout').gap

theorem Layout.of_blanks {s t r : List Char} {comments : List String}
    (blank : ∀ c ∈ s, Text.isBlank c = true) (layout : Layout t comments r) :
    Layout (s ++ t) comments r := by
  induction s with
  | nil => exact layout
  | cons c s step =>
    exact .blank (blank c (by simp)) (step fun d member => blank d (List.mem_cons_of_mem _ member))

theorem Layout.blanks {s r : List Char} {comments : List String}
    (layout : Layout (s.dropWhile Text.isBlank) comments r) : Layout s comments r := by
  have blank : ∀ c ∈ s.takeWhile Text.isBlank, Text.isBlank c = true :=
    fun _ member => List.mem_takeWhile_imp member
  have whole := Layout.of_blanks blank layout
  rwa [List.takeWhile_append_dropWhile] at whole

theorem BlockComment.starts {text : List Char} (closed : BlockComment text) :
    ∃ inside, text = '/' :: '*' :: inside := by
  obtain ⟨body, rfl, -⟩ := closed
  exact ⟨body ++ ['*', '/'], rfl⟩

theorem LineComment.starts {text : List Char} (inLine : LineComment text) :
    ∃ rest, text = '#' :: rest ∨ text = '/' :: '/' :: rest := by
  obtain ⟨⟨rest, rfl⟩ | ⟨rest, rfl⟩, -⟩ := inLine
  · exact ⟨rest, .inl rfl⟩
  · exact ⟨rest, .inr rfl⟩

end Grammar

namespace Reader

/-! ## Comments -/

theorem throughClose?_of_close (rest : List Char) {inner : List Char}
    (first : ¬ ['*', '/'] <:+: inner ++ ['*']) :
    throughClose? (inner ++ ['*', '/'] ++ rest) = some (inner ++ ['*', '/'], rest) := by
  induction inner with
  | nil => rfl
  | cons c inner step =>
    rw [List.cons_append, List.infix_cons_iff, not_or] at first
    rw [List.cons_append, List.cons_append, throughClose?, step first.2]
    · rfl
    · rintro after rfl same
      cases inner with
      | nil => simp at same
      | cons d inner =>
        obtain rfl : d = '/' := (List.cons.inj same).1
        exact first.1 ⟨inner ++ ['*'], rfl⟩

theorem close_of_throughClose? {s body rest : List Char}
    (closed : throughClose? s = some (body, rest)) :
    ∃ inner, body = inner ++ ['*', '/'] ∧ ¬ ['*', '/'] <:+: inner ++ ['*'] := by
  fun_induction throughClose? s generalizing body rest with
  | case1 rest' =>
    obtain ⟨rfl, -⟩ : ['*', '/'] = body ∧ rest' = rest := by simpa using closed
    exact ⟨[], rfl, by decide⟩
  | case2 c s notClose step =>
    obtain ⟨⟨body', rest'⟩, closed', same⟩ := Option.map_eq_some_iff.1 closed
    obtain ⟨rfl, rfl⟩ := Prod.mk.inj same
    have splits := append_of_throughClose? closed'
    obtain ⟨inner, rfl, first⟩ := step closed'
    refine ⟨c :: inner, rfl, ?_⟩
    rw [List.cons_append, List.infix_cons_iff, not_or]
    refine ⟨?_, first⟩
    rintro ⟨more, same⟩
    obtain ⟨isStar, same⟩ := List.cons.inj same
    cases inner with
    | nil => simp at same
    | cons d inner =>
      obtain ⟨rfl, -⟩ := List.cons.inj same
      exact notClose _ isStar.symm splits
  | case3 => simp at closed

theorem isLineEnd_eq_false {c : Char} : isLineEnd c = false ↔ c ≠ '\r' ∧ c ≠ '\n' := by
  simp [isLineEnd]

theorem comment?_block {text s : List Char} (closed : BlockComment text) :
    comment? (text ++ s) = .ok (some text, s) := by
  obtain ⟨body, rfl, first⟩ := closed
  have through := throughClose?_of_close s first
  change comment? ('/' :: '*' :: (body ++ ['*', '/'] ++ s)) = _
  rw [comment?]
  simp only [through]
  rfl

theorem lineComment_append {text s : List Char} (inLine : LineComment text) (ends : EndsLine s) :
    lineComment (text ++ s) = (Text.trimRight text, s) := by
  have inside : ∀ c ∈ text, (!isLineEnd c) = true := by
    intro c member
    rw [isLineEnd_eq_false.2 (inLine.inLine c member)]
    rfl
  have stops : s.takeWhile (!isLineEnd ·) = [] ∧ s.dropWhile (!isLineEnd ·) = s := by
    cases s with
    | nil => exact ⟨rfl, rfl⟩
    | cons c s =>
      have : isLineEnd c = true := by simpa [isLineEnd] using ends c rfl
      simp [this]
  rw [lineComment, List.takeWhile_append_of_pos inside, List.dropWhile_append_of_pos inside,
    stops.1, stops.2, List.append_nil]

theorem comment?_line {text s : List Char} (inLine : LineComment text) (ends : EndsLine s) :
    comment? (text ++ s) = .ok (some (Text.trimRight text), s) := by
  have splits := lineComment_append inLine ends
  obtain ⟨rest, rfl | rfl⟩ := inLine.starts
  · simp only [List.cons_append] at splits ⊢
    simp [comment?, splits]
  · simp only [List.cons_append] at splits ⊢
    simp [comment?, splits]

theorem comment?_of_solid {s : List Char} (solid : Solid s) : comment? s = .ok (none, s) := by
  unfold Solid at solid
  unfold comment?
  split at solid <;> simp_all

/-- The rest of the line, taken as a comment. -/
theorem layout_of_lineComment {s c r t : List Char} {more : List String}
    (marked : ['#'] <+: s ∨ ['/', '/'] <+: s) (split : lineComment s = (c, r))
    (layout : Layout r more t) : Layout s (String.ofList c :: more) t := by
  obtain ⟨rfl, rfl⟩ := Prod.mk.inj split
  have inLine : LineComment (s.takeWhile (!isLineEnd ·)) := by
    constructor
    · rcases marked with ⟨rest, rfl⟩ | ⟨rest, rfl⟩
      · exact .inl ⟨rest.takeWhile (!isLineEnd ·), rfl⟩
      · exact .inr ⟨rest.takeWhile (!isLineEnd ·), rfl⟩
    · intro c member
      have inside := List.mem_takeWhile_imp member
      exact isLineEnd_eq_false.1 (by simpa using inside)
  have ends : EndsLine (s.dropWhile (!isLineEnd ·)) := by
    intro c member
    have stops := List.head?_dropWhile_not (!isLineEnd ·) s
    rw [Option.mem_def.1 member] at stops
    have lineEnd : isLineEnd c = true := by simpa using stops
    simpa [isLineEnd] using lineEnd
  have splits : s.takeWhile (!isLineEnd ·) ++ s.dropWhile (!isLineEnd ·) = s :=
    List.takeWhile_append_dropWhile
  have whole := Layout.line inLine ends layout
  rwa [splits] at whole

/-- A comment that is read is the one that stands there. -/
theorem layout_of_comment? {s c r t : List Char} {more : List String}
    (read : comment? s = .ok (some c, r)) (layout : Layout r more t) :
    Layout s (String.ofList c :: more) t := by
  unfold comment? at read
  split at read
  · rename_i inside
    split at read
    · rename_i body rest closed
      obtain ⟨same, rfl⟩ := Prod.mk.inj (Except.ok.inj read)
      obtain rfl := Option.some.inj same
      obtain ⟨inner, rfl, first⟩ := close_of_throughClose? closed
      rw [append_of_throughClose? closed]
      exact .block ⟨inner, rfl, first⟩ layout
    · cases read
  · rename_i rest
    obtain ⟨same, rfl⟩ := Prod.mk.inj (Except.ok.inj read)
    obtain rfl := Option.some.inj same
    exact layout_of_lineComment (.inr ⟨rest, rfl⟩) rfl layout
  · rename_i rest
    obtain ⟨same, rfl⟩ := Prod.mk.inj (Except.ok.inj read)
    obtain rfl := Option.some.inj same
    exact layout_of_lineComment (.inl ⟨rest, rfl⟩) rfl layout
  · cases read

theorem solid_of_comment? {s r : List Char}
    (read : comment? (s.dropWhile Text.isBlank) = .ok (none, r)) : Solid r := by
  obtain rfl := comment?_none read
  have stops := List.head?_dropWhile_not Text.isBlank s
  generalize s.dropWhile Text.isBlank = t at read stops
  unfold Solid
  split
  · simp [comment?] at read
  · simp [comment?] at read
  · rename_i inside
    rw [comment?] at read
    split at read <;> cases read
  · simpa using stops
  · trivial

/-- The comments that are read are those of all the layout that stands there. -/
theorem comments_eq_ok_iff {s r : List Char} {texts : List String} :
    comments s = .ok (texts, r) ↔ Layout s texts r ∧ Solid r := by
  constructor
  · intro read
    fun_induction comments s generalizing texts r with
    | case1 => cases read
    | case2 s t found =>
      obtain ⟨rfl, rfl⟩ := Prod.mk.inj (Except.ok.inj read)
      have solid := solid_of_comment? found
      obtain rfl := comment?_none found
      exact ⟨Layout.blanks .done, solid⟩
    | case3 s c t found _ _ step =>
      cases outcome : comments t with
      | error => rw [outcome] at read; cases read
      | ok result =>
        obtain ⟨more, u⟩ := result
        rw [outcome] at read
        obtain ⟨rfl, rfl⟩ := Prod.mk.inj (Except.ok.inj read)
        obtain ⟨layout, solid⟩ := step outcome
        exact ⟨Layout.blanks (layout_of_comment? found layout), solid⟩
  · rintro ⟨layout, solid⟩
    induction layout with
    | done => rw [comments_eq, solid.dropWhile, comment?_of_solid solid]
    | blank blank _ step =>
      rw [comments_eq, List.dropWhile_cons, if_pos blank, ← comments_eq]
      exact step solid
    | @block text s r more closed _ step =>
      have starts : (text ++ s).dropWhile Text.isBlank = text ++ s := by
        obtain ⟨inside, rfl⟩ := closed.starts
        rfl
      rw [comments_eq, starts, comment?_block closed]
      dsimp only
      rw [step solid]
      rfl
    | @line text s r more inLine ends _ step =>
      have starts : (text ++ s).dropWhile Text.isBlank = text ++ s := by
        obtain ⟨rest, rfl | rfl⟩ := inLine.starts
        · rfl
        · rfl
      rw [comments_eq, starts, comment?_line inLine ends]
      dsimp only
      rw [step solid]
      rfl

theorem comments_of_solid {s : List Char} (solid : Solid s) : comments s = .ok ([], s) :=
  comments_eq_ok_iff.2 ⟨.done, solid⟩

/-! ## Going past layout -/

theorem skipLayout_eq_ok_iff {s r : List Char} :
    skipLayout s = .ok ((), r) ↔ Gap s r ∧ Solid r := by
  rw [skipLayout]
  constructor
  · intro read
    cases outcome : comments s with
    | error => rw [outcome] at read; cases read
    | ok result =>
      obtain ⟨texts, t⟩ := result
      rw [outcome] at read
      obtain ⟨-, rfl⟩ := Prod.mk.inj (Except.ok.inj read)
      obtain ⟨layout, solid⟩ := comments_eq_ok_iff.1 outcome
      exact ⟨layout.gap, solid⟩
  · rintro ⟨⟨texts, layout⟩, solid⟩
    rw [comments_eq_ok_iff.2 ⟨layout, solid⟩]
    rfl

theorem skipLayout_of_gap {s r : List Char} (gap : Gap s r) (solid : Solid r) :
    skipLayout s = .ok ((), r) :=
  skipLayout_eq_ok_iff.2 ⟨gap, solid⟩

/-- Layout leads to one place where none starts. -/
theorem Gap.unique {s r r' : List Char} (gap : Gap s r) (solid : Solid r) (gap' : Gap s r')
    (solid' : Solid r') : r = r' := by
  have read := (skipLayout_of_gap gap solid).symm.trans (skipLayout_of_gap gap' solid')
  exact (Prod.mk.inj (Except.ok.inj read)).2

theorem expect_eq_ok_iff {token : String} (solid : ∀ r, Solid (token.toList ++ r))
    {s r : List Char} : expect token s = .ok ((), r) ↔ Gap s (token.toList ++ r) := by
  rw [expect, bind_eq_ok_iff]
  constructor
  · rintro ⟨_, t, skipped, read⟩
    obtain ⟨found, u, accepted, read⟩ := bind_eq_ok_iff.1 read
    cases found with
    | false => cases read
    | true =>
      obtain ⟨-, rfl⟩ := pure_eq_ok_iff.1 read
      rw [← accept_eq_true accepted]
      exact (skipLayout_eq_ok_iff.1 skipped).1
  · intro gap
    refine ⟨(), token.toList ++ r, skipLayout_of_gap gap (solid r), ?_⟩
    rw [bind_of_ok (accept_append _ _)]
    rfl

end Reader

end SeqChart
