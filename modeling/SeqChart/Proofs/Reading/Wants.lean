import SeqChart.Proofs.Grammar.Completion
import SeqChart.Proofs.Reading.Faults
import SeqChart.Proofs.Reading.Openings
/-!
What readers stop for want of. Where a reader of the head of a chart says what it needs, the text
before that place is the start of one that its rule takes.
-/

namespace SeqChart

open Grammar

namespace Reader

variable {α β : Type} {s z : List Char}

/-- The reader stops at `z` and says what it needs there. -/
def Misses (p : Reader α) (s z : List Char) : Prop := ∃ wanted, p s = .error ⟨.expected wanted, z⟩

/-! ## Composed readers -/

theorem not_misses_of_total {p : Reader α} (total : ∃ result, p s = .ok result) :
    ¬ Misses p s z := by
  rintro ⟨wanted, failed⟩
  obtain ⟨result, read⟩ := total
  cases read.symm.trans failed

theorem not_misses_pure (a : α) : ¬ Misses (pure a : Reader α) s z :=
  not_misses_of_total ⟨_, rfl⟩

theorem eq_of_misses_fail {cause : Cause} (missed : Misses (fail cause : Reader α) s z) :
    z = s := by
  obtain ⟨wanted, failed⟩ := missed
  cases failed
  rfl

theorem not_misses_failAt {place : List Char} {cause : Cause} (other : cause.wanted? = none) :
    ¬ Misses (failAt place cause : Reader α) s z := by
  rintro ⟨wanted, failed⟩
  cases failed
  cases other

theorem misses_bind_iff {p : Reader α} {f : α → Reader β} :
    Misses (p >>= f) s z ↔ Misses p s z ∨ ∃ a r, p s = .ok (a, r) ∧ Misses (f a) r z := by
  simp only [Misses, bind_eq_error_iff]
  constructor
  · rintro ⟨wanted, stopped | ⟨a, r, read, failed⟩⟩
    · exact .inl ⟨wanted, stopped⟩
    · exact .inr ⟨a, r, read, wanted, failed⟩
  · rintro (⟨wanted, stopped⟩ | ⟨a, r, read, wanted, failed⟩)
    · exact ⟨wanted, .inl stopped⟩
    · exact ⟨wanted, .inr ⟨a, r, read, failed⟩⟩

theorem misses_next {p : Reader α} {f : α → Reader β} (never : ¬ Misses p s z)
    (missed : Misses (p >>= f) s z) : ∃ a r, p s = .ok (a, r) ∧ Misses (f a) r z :=
  (misses_bind_iff.1 missed).resolve_left never

theorem misses_bind_of_ok {p : Reader α} {f : α → Reader β} {a : α} {r : List Char}
    (read : p s = .ok (a, r)) (missed : Misses (p >>= f) s z) : Misses (f a) r z := by
  rwa [Misses, bind_of_ok read] at missed

/-- What is only returned in the end misses nothing. -/
theorem misses_of_bind_pure {p : Reader α} {f : α → β}
    (missed : Misses (p >>= fun a => pure (f a)) s z) : Misses p s z := by
  refine (misses_bind_iff.1 missed).resolve_right ?_
  rintro ⟨a, r, -, refused⟩
  exact not_misses_pure _ refused

theorem not_misses_comments : ¬ Misses comments s z := by
  rintro ⟨wanted, failed⟩
  cases (comments_eq_error failed).1

theorem not_misses_skipLayout : ¬ Misses skipLayout s z := by
  rintro ⟨wanted, failed⟩
  exact not_misses_comments ⟨wanted, Except.map_eq_error_iff.1 failed⟩

theorem misses_skipLayout_bind {f : Unit → Reader α} (missed : Misses (skipLayout >>= f) s z) :
    ∃ t, Gap s t ∧ Solid t ∧ Misses (f ()) t z := by
  obtain ⟨_, t, skipped, missed⟩ := misses_next not_misses_skipLayout missed
  obtain ⟨gap, solid⟩ := skipLayout_eq_ok_iff.1 skipped
  exact ⟨t, gap, solid, missed⟩

theorem misses_comments_bind {f : List String → Reader α} (missed : Misses (comments >>= f) s z) :
    ∃ before t, Layout s before t ∧ Solid t ∧ Misses (f before) t z := by
  obtain ⟨before, t, read, missed⟩ := misses_next not_misses_comments missed
  obtain ⟨layout, solid⟩ := comments_eq_ok_iff.1 read
  exact ⟨before, t, layout, solid, missed⟩

/-- Where no layout stands, none is skipped. -/
theorem misses_skipLayout_of_solid {f : Unit → Reader α} (solid : Solid s)
    (missed : Misses (skipLayout >>= f) s z) : Misses (f ()) s z :=
  misses_bind_of_ok (skipLayout_of_gap (Gap.refl s) solid) missed

theorem misses_get_bind {f : List Char → Reader α} (missed : Misses (get >>= f) s z) :
    Misses (f s) s z := by
  rwa [Misses, get_bind] at missed

theorem misses_accept_bind {c : Char} {f : Bool → Reader α}
    (missed : Misses (accept [c] >>= f) s z) :
    (∃ r, s = c :: r ∧ Misses (f true) r z) ∨ (s.head? ≠ some c ∧ Misses (f false) s z) := by
  by_cases stands : s.head? = some c
  · obtain ⟨r, rfl⟩ := List.head?_eq_some_iff.1 stands
    exact .inl ⟨r, rfl, misses_bind_of_ok (accept_cons c r) missed⟩
  · exact .inr ⟨stands, misses_bind_of_ok (accept_head stands) missed⟩

theorem misses_needed_word_bind {wanted : Wanted} {f : List Char → Reader α}
    (missed : Misses (do
      let w ← word
      if (String.ofList w).isEmpty then fail (.expected wanted) else f w) s z) :
    z = s ∨ ∃ w r, Word s w r ∧ Misses (f w) r z := by
  obtain ⟨w, r, read, missed⟩ := misses_next (not_misses_of_total ⟨_, rfl⟩) missed
  split at missed
  · rename_i empty
    obtain rfl := eq_of_misses_fail missed
    obtain ⟨rfl, rfl⟩ := Prod.mk.inj (Except.ok.inj read)
    have none : s.takeWhile Text.isWord = [] := by simpa [ofList_isEmpty] using empty
    have splits := List.takeWhile_append_dropWhile (p := Text.isWord) (l := s)
    exact .inl (by rwa [none] at splits)
  · rename_i nonempty
    exact .inr ⟨w, r, word_of_nonempty read (by simpa [ofList_isEmpty] using nonempty), missed⟩

theorem not_misses_accept {token : List Char} : ¬ Misses (accept token) s z := by
  rintro ⟨wanted, failed⟩
  rw [accept] at failed
  split at failed <;> cases failed

theorem gap_of_misses_expect {token : String} (missed : Misses (expect token) s z) : Gap s z := by
  obtain ⟨t, gap, -, missed⟩ := misses_skipLayout_bind missed
  obtain ⟨found, r, read, refused⟩ := misses_next not_misses_accept missed
  cases found with
  | true => exact absurd refused (not_misses_pure _)
  | false =>
    obtain ⟨rfl, -⟩ := accept_eq_false read
    obtain rfl := eq_of_misses_fail refused
    exact gap

/-! ## Names and values -/

theorem not_misses_quoted : ¬ Misses quoted? s z := by
  rintro ⟨wanted, failed⟩
  unfold quoted? at failed
  split at failed
  · split at failed <;> cases failed
  · cases failed

theorem gap_of_misses_name (missed : Misses name s z) : Gap s z ∧ Solid z := by
  obtain ⟨t, gap, solid, missed⟩ := misses_skipLayout_bind missed
  obtain ⟨found, r, read, missed⟩ := misses_next not_misses_quoted (misses_get_bind missed)
  cases found with
  | some text =>
    dsimp only at missed
    split at missed
    · exact absurd missed (not_misses_failAt rfl)
    · exact absurd missed (not_misses_pure _)
  | none =>
    obtain rfl := quoted?_none read
    rcases misses_needed_word_bind missed with rfl | ⟨w, u, -, missed⟩
    · exact ⟨gap, solid⟩
    · split at missed
      · exact absurd missed (not_misses_failAt rfl)
      · exact absurd missed (not_misses_pure _)

theorem gap_of_misses_endpoint (missed : Misses endpoint s z) : Gap s z ∧ Solid z := by
  obtain ⟨t, gap, -, missed⟩ := misses_skipLayout_bind missed
  rcases misses_accept_bind missed with ⟨r, -, missed⟩ | ⟨-, missed⟩
  · exact absurd missed (not_misses_pure _)
  · obtain ⟨gap', solid⟩ := gap_of_misses_name missed
    exact ⟨gap.trans gap', solid⟩

theorem gap_of_misses_value (missed : Misses value s z) : Gap s z := by
  obtain ⟨t, gap, -, missed⟩ := misses_skipLayout_bind missed
  obtain ⟨found, r, read, refused⟩ := misses_next not_misses_quoted missed
  cases found with
  | some text => exact absurd refused (not_misses_pure _)
  | none =>
    obtain rfl := quoted?_none read
    obtain ⟨wanted, failed⟩ := refused
    dsimp only at failed
    unfold bareValue at failed
    split at failed <;> cases failed
    exact gap

/-! ## Lists -/

/-- A list up to and with its closing character. -/
def ListTo (Item : List String → List Char → α → List Char → Prop) (close : Char)
    (before : List String) (s r : List Char) : Prop :=
  ∃ as u, ListOf Item before s as u ∧ Gap u (close :: r)

/-- What lists of items need so that they can be completed. `Allowed` is what is known of the places
at which items start, and `First s t` what is asked of the text of the first item, where it takes
the place of another one. -/
structure Repairs (Item : List String → List Char → α → List Char → Prop)
    (item : List String → Reader α) (Allowed : List Char → Prop)
    (First : List Char → List Char → Prop) (z : List Char) : Prop where
  recognised : Recognises Item item
  breaks : ∀ {before s a t}, (∀ y, t = y ++ z → y.head? ≠ some '.') → Item before s a t →
    Breaks (fun s' t => First s s' ∧ Item before s' a t) s t z
  next : ∀ {before s a t u v}, Allowed s → Item before s a t → Gap t (',' :: u) → Gap u v →
    Allowed v
  missing : ∀ {before s}, Solid s → Allowed s → Misses (item before) s z →
    Completable (Relation.Comp (Layout · [] ·) fun t r => First s t ∧ ∃ a, Item before t a r) s z

section

variable {Item : List String → List Char → α → List Char → Prop} {item : List String → Reader α}
  {Allowed : List Char → Prop} {First : List Char → List Char → Prop} {close : Char}
  {closesItself : α → Bool} {before : List String}

theorem listed_completable (repairs : Repairs Item item Allowed First z) (solid : Solid s)
    (allowed : Allowed s) (missed : Misses (listed item close closesItself before) s z) :
    Completable (Relation.Comp (Layout · [] ·) fun t r => First s t ∧ ListTo Item close before t r)
      s z := by
  rcases misses_bind_iff.1 missed with stopped | ⟨a, v, read, refused⟩
  · have start : Startable fun u r => Gap u (close :: r) := ⟨[close], fun _ => Gap.refl _⟩
    refine ((repairs.missing solid allowed stopped).andThen start).imp ?_
    rintro y w r - ⟨u, ⟨t, layout, first, a, taken⟩, closed⟩
    exact ⟨t, layout, first, [a], u, .one taken, closed⟩
  · obtain ⟨t, u, gap, taken, after⟩ := repairs.recognised.sound read
    obtain rfl := Gap.unique gap (repairs.recognised.solid taken) (Gap.refl s) solid
    obtain ⟨w, gap', -, refused⟩ := misses_skipLayout_bind refused
    rcases misses_accept_bind refused with ⟨r, -, refused⟩ | ⟨-, refused⟩
    · exact absurd refused (not_misses_pure _)
    rw [if_neg Bool.false_ne_true] at refused
    rcases misses_accept_bind refused with ⟨r, -, refused⟩ | ⟨-, refused⟩
    · obtain ⟨_, _, -, -, refused⟩ := misses_comments_bind refused
      exact absurd refused (not_misses_pure _)
    rw [if_neg Bool.false_ne_true] at refused
    split at refused
    · exact absurd refused (not_misses_pure _)
    · obtain rfl := eq_of_misses_fail refused
      have ends := after.trans gap'
      have breaks := repairs.breaks (fun y left => (left ▸ ends).no_point_left) taken
      refine ((completable_of_gap ends (startable_char close)).after breaks).imp ?_
      rintro y w r - ⟨x, ⟨first, taken⟩, _, after, rfl⟩
      exact ⟨_, .done, first, [a], x, .one taken, after⟩

theorem series_completable (repairs : Repairs Item item Allowed First z)
    (advances : ∀ before, Advances (item before)) (solid : Solid s) (allowed : Allowed s)
    (missed : Misses (series item advances close closesItself before) s z) :
    Completable (Relation.Comp (Layout · [] ·) fun t r => First s t ∧ ListTo Item close before t r)
      s z := by
  obtain ⟨wanted, failed⟩ := missed
  rw [series] at failed
  fun_induction chain (listed item close closesItself) (advances_listed advances close closesItself)
    before s with
  | case1 before s e stopped =>
    cases failed
    exact listed_completable repairs solid allowed ⟨wanted, stopped⟩
  | case2 => cases failed
  | case3 before s a next v read less step =>
    obtain ⟨t, u, v', gap, taken, after, layout, solid'⟩ :=
      listed_sound_next repairs.recognised read
    obtain rfl := Gap.unique gap (repairs.recognised.solid taken) (Gap.refl s) solid
    have more := step solid' (repairs.next allowed taken after layout.gap)
      (Except.map_eq_error_iff.1 failed)
    have breaks := repairs.breaks (fun y left => (left ▸ after).no_point (by decide)) taken
    refine (more.after (breaks.comp (after.breaks_cons.comp layout.breaks))).imp ?_
    rintro y w r - ⟨x, ⟨p, ⟨first, taken⟩, q, after, layout⟩, o, layout', -, as, u, list, closed⟩
    refine ⟨_, .done, first, a :: as, u, .more taken after ?_ list, closed⟩
    simpa using layout.append layout'

end

/-- Most lists ask nothing of the places of their items, and nothing of the first one. -/
abbrev PlainRepairs (Item : List String → List Char → α → List Char → Prop)
    (item : List String → Reader α) (z : List Char) : Prop :=
  Repairs Item item (fun _ => True) (fun _ _ => True) z

/-! ## Options and attributes -/

theorem setting_completable (solid : Solid s) (missed : Misses setting s z) :
    Completable (Relation.Comp (Layout · [] ·) fun t r => True ∧ ∃ x, OptionItem t x r) s z := by
  rcases misses_needed_word_bind (misses_get_bind (misses_skipLayout_of_solid solid missed)) with
    rfl | ⟨w, t, word, refused⟩
  · refine (completable_here startable_optionItem).imp ?_
    rintro y w r - ⟨t, layout, item⟩
    exact ⟨t, layout, trivial, item⟩
  · split at refused
    · exact absurd refused (not_misses_failAt rfl)
    · rename_i option known
      have keyword : Keyword option.name s t := ⟨w, word, OptionName.ofName?_eq_some_iff.1 known⟩
      obtain ⟨setting, legal⟩ := exists_legal option
      rcases misses_bind_iff.1 refused with stopped | ⟨_, u, read, refused⟩
      · refine ((completable_of_gap (gap_of_misses_expect stopped) startable_given).after
          keyword.breaks).imp ?_
        rintro y w r - ⟨p, keyword, q, gap, ⟨gap', given⟩⟩
        exact ⟨_, .done, trivial, setting, .mk keyword gap gap' given legal⟩
      · have equals := (expect_eq_ok_iff solid_equals).1 read
        obtain ⟨v, gap, -, refused⟩ := misses_skipLayout_bind refused
        rcases misses_bind_iff.1 (misses_get_bind refused) with stopped | ⟨text, x, -, refused⟩
        · have gap' := gap.trans (gap_of_misses_value stopped)
          refine ((completable_of_gap gap' startable_value).after
            (keyword.breaks.comp (Gap.breaks_cons equals))).imp ?_
          rintro y w r - ⟨p, ⟨q, keyword, equals⟩, o, gap, given⟩
          exact ⟨_, .done, trivial, setting, .mk keyword equals gap given legal⟩
        · split at refused
          · exact absurd refused (not_misses_pure _)
          · rename_i cause wrong
            exact absurd refused (not_misses_failAt (OptionName.wanted?_of_setting wrong))

theorem setting_repairs : PlainRepairs (fun _ => OptionItem) (fun _ => setting) z where
  recognised := setting_recognises
  breaks := by
    rintro before s x t noPoint item y tail rfl
    obtain ⟨x, text, item'⟩ := optionItem_exchanges (.line z tail) (noPoint y rfl) item
    exact ⟨x, text, trivial, item'⟩
  next := fun _ _ _ _ => trivial
  missing := fun solid _ => setting_completable solid

theorem assignment_completable (solid : Solid s) (missed : Misses assignment s z) :
    Completable (Relation.Comp (Layout · [] ·) fun t r => True ∧ ∃ pair, Assignment t pair r)
      s z := by
  rcases misses_needed_word_bind (misses_get_bind (misses_skipLayout_of_solid solid missed)) with
    rfl | ⟨w, t, word, refused⟩
  · refine (completable_here startable_assignment).imp ?_
    rintro y w r - ⟨t, layout, item⟩
    exact ⟨t, layout, trivial, item⟩
  · split at refused
    · exact absurd refused (not_misses_failAt rfl)
    · rename_i name known
      have breaks : Breaks (Word · w ·) s t z :=
        breaks_of_exchanges (fun tail => word_exchanges (.line z tail) _) word
      rcases misses_bind_iff.1 refused with stopped | ⟨_, u, read, refused⟩
      · refine ((completable_of_gap (gap_of_misses_expect stopped) startable_given).after
          breaks).imp ?_
        rintro y w r - ⟨p, word, q, gap, ⟨gap', given⟩⟩
        exact ⟨_, .done, trivial, _, .mk word known gap gap' given⟩
      · have equals := (expect_eq_ok_iff solid_equals).1 read
        have gap := gap_of_misses_value (misses_of_bind_pure refused)
        refine ((completable_of_gap gap startable_value).after
          (breaks.comp (Gap.breaks_cons equals))).imp ?_
        rintro y w r - ⟨p, ⟨q, word, equals⟩, o, gap, given⟩
        exact ⟨_, .done, trivial, _, .mk word known equals gap given⟩

theorem assignment_repairs : PlainRepairs (fun _ => Assignment) (fun _ => assignment) z where
  recognised := assignment_recognises
  breaks := by
    rintro before s pair t noPoint item y tail rfl
    obtain ⟨x, text, item'⟩ := assignment_exchanges (.line z tail) (noPoint y rfl) item
    exact ⟨x, text, trivial, item'⟩
  next := fun _ _ _ _ => trivial
  missing := fun solid _ => assignment_completable solid

theorem attributes_completable (missed : Misses attributes s z) :
    Completable (fun s r => ∃ attrs, Attributes s attrs r) s z := by
  obtain ⟨t, gap, -, refused⟩ := misses_skipLayout_bind missed
  rcases misses_accept_bind refused with ⟨u, rfl, opened⟩ | ⟨-, refused⟩
  · rw [if_pos rfl] at opened
    obtain ⟨v, gap', solid, refused⟩ := misses_skipLayout_bind opened
    rcases misses_accept_bind refused with ⟨w, -, refused⟩ | ⟨-, refused⟩
    · exact absurd refused (not_misses_pure _)
    · rw [if_neg Bool.false_ne_true] at refused
      have list :=
        series_completable assignment_repairs _ solid trivial (misses_of_bind_pure refused)
      refine (list.after (gap.breaks_cons.comp gap'.breaks)).imp ?_
      rintro y w r - ⟨p, ⟨q, opened, gap⟩, o, layout, -, pairs, u, list, closed⟩
      exact ⟨_, .some opened (gap.trans layout.gap) list closed⟩
  · rw [if_neg Bool.false_ne_true] at refused
    exact absurd refused (not_misses_pure _)

/-! ## Entities -/

theorem entity_completable {before : List String} (solid : Solid s)
    (missed : Misses (entity before) s z) :
    Completable (Relation.Comp (Layout · [] ·) fun t r => True ∧ ∃ e, EntityItem before t e r)
      s z := by
  rcases misses_bind_iff.1 missed with stopped | ⟨n, t, read, refused⟩
  · obtain ⟨gap, solid'⟩ := gap_of_misses_name stopped
    obtain rfl := Gap.unique gap solid' (Gap.refl s) solid
    refine (completable_here startable_name).imp ?_
    rintro y w r - ⟨t, layout, named⟩
    exact ⟨t, layout, trivial, _, .mk named .absent⟩
  · obtain ⟨s', gap, named⟩ := name_eq_ok_iff.1 read
    obtain rfl := Gap.unique gap named.solid (Gap.refl s) solid
    have breaks : Breaks (Name · n ·) s' t z :=
      breaks_of_exchanges (fun tail => name_exchanges (.line z tail) _) named
    refine ((attributes_completable (misses_of_bind_pure refused)).after breaks).imp ?_
    rintro y w r - ⟨p, named, attrs, stands⟩
    exact ⟨_, .done, trivial, _, .mk named stands⟩

theorem entity_repairs : PlainRepairs EntityItem entity z where
  recognised := entity_recognises
  breaks := by
    rintro before s e t - item y tail rfl
    obtain ⟨x, text, item'⟩ := entityItem_exchanges (.line z tail) _ _ item
    exact ⟨x, text, trivial, item'⟩
  next := fun _ _ _ _ => trivial
  missing := fun solid _ => entity_completable solid

end Reader

end SeqChart
