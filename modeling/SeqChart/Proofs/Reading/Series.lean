import SeqChart.Proofs.Grammar.Syntax
import SeqChart.Proofs.Reading.Layout
import SeqChart.Reader.Series
/-!
Reading lists of items. Where a reader takes the items of a rule, `series` takes the lists of them:
`series_sound`, `series_of_close` and `series_of_open`.

A reader may stop before the layout behind an item or after it: attributes are looked for behind
layout whether or not there are any. So an item is described up to the layout around it.
-/

namespace SeqChart

open Grammar

variable {α : Type}

theorem Grammar.ListOf.first {Item : List String → List Char → α → List Char → Prop}
    {before : List String} {s r : List Char} {as : List α} (list : ListOf Item before s as r) :
    ∃ a t, Item before s a t := by
  cases list with
  | one item => exact ⟨_, _, item⟩
  | more item _ _ _ => exact ⟨_, _, item⟩

theorem Grammar.ListOf.solid {Item : List String → List Char → α → List Char → Prop}
    (solid : ∀ ⦃before s a r⦄, Item before s a r → Solid s) {before : List String}
    {s r : List Char} {as : List α} (list : ListOf Item before s as r) : Solid s := by
  obtain ⟨a, t, item⟩ := list.first
  exact solid item

namespace Reader

/-- The reader takes the items of the rule, and no others. A bracket behind an item could be taken
for its attributes. -/
structure Recognises (Item : List String → List Char → α → List Char → Prop)
    (item : List String → Reader α) : Prop where
  solid : ∀ ⦃before s a r⦄, Item before s a r → Solid s
  sound : ∀ {before s a r}, item before s = .ok (a, r) →
    ∃ t u, Gap s t ∧ Item before t a u ∧ Gap u r
  complete : ∀ {before s t a u r}, Gap s t → Item before t a u → Gap u r → Solid r →
    r.head? ≠ some '[' → ∃ v, item before s = .ok (a, v) ∧ Gap v r

/-- A reader that takes an item and nothing behind it. -/
theorem Recognises.of_iff {Item : List Char → α → List Char → Prop} {item : Reader α}
    (solid : ∀ ⦃s a r⦄, Item s a r → Solid s)
    (exact_item : ∀ {s a r}, item s = .ok (a, r) ↔ ∃ t, Gap s t ∧ Item t a r) :
    Recognises (fun _ => Item) (fun _ => item) where
  solid := fun _ => solid
  sound := by
    intro _ s a r read
    obtain ⟨t, gap, taken⟩ := exact_item.1 read
    exact ⟨t, r, gap, taken, Gap.refl r⟩
  complete := by
    intro _ s t a u r gap taken after _ _
    exact ⟨u, exact_item.2 ⟨t, gap, taken⟩, after⟩

section

variable {Item : List String → List Char → α → List Char → Prop} {item : List String → Reader α}
  {close : Char} {closesItself : α → Bool}

/-! ## One item and what follows it -/

theorem listed_sound_last (recognised : Recognises Item item) {before : List String}
    {s r : List Char} {a : α}
    (read : listed item close closesItself before s = .ok ((a, none), r)) :
    ∃ t u, Gap s t ∧ Item before t a u ∧
      (Gap u (close :: r) ∨ (closesItself a = true ∧ Gap u r ∧ Solid r)) := by
  rw [listed, bind_eq_ok_iff] at read
  obtain ⟨b, v, taken, read⟩ := read
  obtain ⟨t, u, gap, taken, after⟩ := recognised.sound taken
  obtain ⟨_, w, skipped, read⟩ := bind_eq_ok_iff.1 read
  obtain ⟨after', solid⟩ := skipLayout_eq_ok_iff.1 skipped
  obtain ⟨closed, x, accepted, rest⟩ := bind_eq_ok_iff.1 read
  cases closed with
  | true =>
    rw [if_pos rfl] at rest
    obtain ⟨same, rfl⟩ := pure_eq_ok_iff.1 rest
    cases same
    have splits : w = close :: x := accept_eq_true accepted
    exact ⟨t, u, gap, taken, .inl (splits ▸ after.trans after')⟩
  | false =>
    obtain ⟨rfl, -⟩ := accept_eq_false accepted
    rw [if_neg Bool.false_ne_true] at rest
    obtain ⟨goesOn, y, accepted', last⟩ := bind_eq_ok_iff.1 rest
    cases goesOn with
    | true =>
      rw [if_pos rfl] at last
      obtain ⟨next, z, -, last⟩ := bind_eq_ok_iff.1 last
      cases (pure_eq_ok_iff.1 last).1
    | false =>
      obtain ⟨rfl, -⟩ := accept_eq_false accepted'
      rw [if_neg Bool.false_ne_true] at last
      split at last
      · rename_i closes
        obtain ⟨same, rfl⟩ := pure_eq_ok_iff.1 last
        cases same
        exact ⟨t, u, gap, taken, .inr ⟨closes, after.trans after', solid⟩⟩
      · cases last

theorem listed_sound_next (recognised : Recognises Item item) {before next : List String}
    {s r : List Char} {a : α}
    (read : listed item close closesItself before s = .ok ((a, some next), r)) :
    ∃ t u v, Gap s t ∧ Item before t a u ∧ Gap u (',' :: v) ∧ Layout v next r ∧ Solid r := by
  rw [listed, bind_eq_ok_iff] at read
  obtain ⟨b, v, taken, read⟩ := read
  obtain ⟨t, u, gap, taken, after⟩ := recognised.sound taken
  obtain ⟨_, w, skipped, read⟩ := bind_eq_ok_iff.1 read
  obtain ⟨after', solid⟩ := skipLayout_eq_ok_iff.1 skipped
  obtain ⟨closed, x, accepted, rest⟩ := bind_eq_ok_iff.1 read
  cases closed with
  | true =>
    rw [if_pos rfl] at rest
    cases (pure_eq_ok_iff.1 rest).1
  | false =>
    obtain ⟨rfl, -⟩ := accept_eq_false accepted
    rw [if_neg Bool.false_ne_true] at rest
    obtain ⟨goesOn, y, accepted', last⟩ := bind_eq_ok_iff.1 rest
    cases goesOn with
    | true =>
      rw [if_pos rfl] at last
      obtain ⟨texts, z, layout, last⟩ := bind_eq_ok_iff.1 last
      obtain ⟨same, rfl⟩ := pure_eq_ok_iff.1 last
      cases same
      obtain ⟨layout, solid'⟩ := comments_eq_ok_iff.1 layout
      have splits : x = ',' :: y := accept_eq_true accepted'
      exact ⟨t, u, y, gap, taken, splits ▸ after.trans after', layout, solid'⟩
    | false =>
      rw [if_neg Bool.false_ne_true] at last
      split at last
      · cases (pure_eq_ok_iff.1 last).1
      · cases last

theorem listed_of_close (recognised : Recognises Item item) (plain : isPlain close = true)
    (noBracket : close ≠ '[') {before : List String} {s t u r : List Char} {a : α} (gap : Gap s t)
    (taken : Item before t a u) (after : Gap u (close :: r)) :
    listed item close closesItself before s = .ok ((a, none), r) := by
  have solid : Solid (close :: r) := solid_cons plain
  obtain ⟨v, read, after'⟩ := recognised.complete gap taken after solid (by simpa using noBracket)
  rw [listed, bind_of_ok read, bind_of_ok (skipLayout_of_gap after' solid),
    bind_of_ok (accept_cons close r)]
  rfl

theorem listed_of_comma (recognised : Recognises Item item) (noComma : close ≠ ',')
    {before next : List String} {s t u v r : List Char} {a : α} (gap : Gap s t)
    (taken : Item before t a u) (after : Gap u (',' :: v)) (layout : Layout v next r)
    (solid : Solid r) : listed item close closesItself before s = .ok ((a, some next), r) := by
  have solid' : Solid (',' :: v) := solid_cons rfl
  obtain ⟨w, read, after'⟩ := recognised.complete gap taken after solid' (by simp)
  have notClosed : accept [close] (',' :: v) = .ok (false, ',' :: v) :=
    accept_head (by simpa using noComma.symm)
  rw [listed, bind_of_ok read, bind_of_ok (skipLayout_of_gap after' solid'), bind_of_ok notClosed,
    if_neg Bool.false_ne_true, bind_of_ok (accept_cons ',' v), if_pos rfl,
    bind_of_ok (comments_eq_ok_iff.2 ⟨layout, solid⟩)]
  rfl

/-- What stands behind an item that closes itself must not look like more of the list. -/
theorem listed_of_open (recognised : Recognises Item item) {before : List String}
    {s t u r : List Char} {a : α} (closes : closesItself a = true) (gap : Gap s t)
    (taken : Item before t a u) (after : Gap u r) (solid : Solid r)
    (other : ∀ c ∈ r.head?, c ≠ close ∧ c ≠ ',' ∧ c ≠ '[') :
    listed item close closesItself before s = .ok ((a, none), r) := by
  have apart {c : Char} (refused : ∀ d ∈ r.head?, d ≠ c) : r.head? ≠ some c :=
    fun same => refused c same rfl
  obtain ⟨v, read, after'⟩ := recognised.complete gap taken after solid
    (apart fun d member => (other d member).2.2)
  rw [listed, bind_of_ok read, bind_of_ok (skipLayout_of_gap after' solid),
    bind_of_ok (accept_head (apart fun d member => (other d member).1)),
    if_neg Bool.false_ne_true,
    bind_of_ok (accept_head (apart fun d member => (other d member).2.1)),
    if_neg Bool.false_ne_true, if_pos closes]
  rfl

/-! ## Whole lists -/

theorem series_sound (recognised : Recognises Item item)
    (advances : ∀ before, Advances (item before)) {before : List String} {s r : List Char}
    {as : List α} (read : series item advances close closesItself before s = .ok (as, r)) :
    ∃ t u, Gap s t ∧ ListOf Item before t as u ∧
      (Gap u (close :: r) ∨ ((∃ a ∈ as.getLast?, closesItself a = true) ∧ Gap u r ∧ Solid r)) := by
  rw [series] at read
  fun_induction chain (listed item close closesItself) (advances_listed advances close closesItself)
    before s generalizing as r with
  | case1 => cases read
  | case2 before s a r' taken =>
    obtain ⟨rfl, rfl⟩ := Prod.mk.inj (Except.ok.inj read)
    obtain ⟨t, u, gap, taken', after⟩ := listed_sound_last recognised taken
    refine ⟨t, u, gap, .one taken', after.imp_right ?_⟩
    rintro ⟨closes, after, solid⟩
    exact ⟨⟨a, rfl, closes⟩, after, solid⟩
  | case3 before s a next s' taken _ step =>
    cases outcome : chain (listed item close closesItself)
        (advances_listed advances close closesItself) next s' with
    | error => rw [outcome] at read; cases read
    | ok result =>
      obtain ⟨more, r'⟩ := result
      rw [outcome] at read
      obtain ⟨rfl, rfl⟩ := Prod.mk.inj (Except.ok.inj read)
      obtain ⟨t, u, v, gap, taken', after, layout, solid⟩ := listed_sound_next recognised taken
      obtain ⟨t', u', gap', list, after'⟩ := step outcome
      obtain rfl := Gap.unique gap' (list.solid recognised.solid) (Gap.refl s') solid
      refine ⟨t, u', gap, .more taken' after layout list, after'.imp_right ?_⟩
      rintro ⟨⟨b, last, closes⟩, after', solid'⟩
      refine ⟨⟨b, ?_, closes⟩, after', solid'⟩
      rw [List.getLast?_cons, Option.mem_def.1 last]
      rfl

theorem series_of_list (recognised : Recognises Item item)
    (advances : ∀ before, Advances (item before)) (noComma : close ≠ ',')
    {before : List String} {s t u r : List Char} {as : List α} (gap : Gap s t)
    (list : ListOf Item before t as u)
    (finished : ∀ {before s t a}, a ∈ as.getLast? → Gap s t → Item before t a u →
      listed item close closesItself before s = .ok ((a, none), r)) :
    series item advances close closesItself before s = .ok (as, r) := by
  rw [series]
  induction list generalizing s with
  | one taken =>
    rw [chain_eq, finished rfl gap taken]
    rfl
  | @more before next t w x v u a as taken after layout list step =>
    have solid := list.solid recognised.solid
    rw [chain_eq, listed_of_comma recognised noComma gap taken after layout solid]
    dsimp only
    rw [step (Gap.refl v)]
    · rfl
    · intro before s t a last gap taken
      refine finished ?_ gap taken
      rw [List.getLast?_cons, Option.mem_def.1 last]
      rfl

theorem series_of_close (recognised : Recognises Item item)
    (advances : ∀ before, Advances (item before)) (plain : isPlain close = true)
    (noBracket : close ≠ '[') (noComma : close ≠ ',') {before : List String} {s t u r : List Char}
    {as : List α} (gap : Gap s t) (list : ListOf Item before t as u) (after : Gap u (close :: r)) :
    series item advances close closesItself before s = .ok (as, r) :=
  series_of_list recognised advances noComma gap list fun _ gap taken =>
    listed_of_close recognised plain noBracket gap taken after

theorem series_of_open (recognised : Recognises Item item)
    (advances : ∀ before, Advances (item before)) (noComma : close ≠ ',') {before : List String}
    {s t u r : List Char} {as : List α} (gap : Gap s t) (list : ListOf Item before t as u)
    (closes : ∃ a ∈ as.getLast?, closesItself a = true) (after : Gap u r) (solid : Solid r)
    (other : ∀ c ∈ r.head?, c ≠ close ∧ c ≠ ',' ∧ c ≠ '[') :
    series item advances close closesItself before s = .ok (as, r) := by
  obtain ⟨b, last, closes⟩ := closes
  refine series_of_list recognised advances noComma gap list fun last' gap taken => ?_
  obtain rfl := Option.some.inj (last.symm.trans last')
  exact listed_of_open recognised closes gap taken after solid other

end

end Reader

end SeqChart
