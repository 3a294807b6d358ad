import SeqChart.Proofs.Chart.Settings
import SeqChart.Proofs.Reading.Lexis
import SeqChart.Proofs.Reading.Series
import SeqChart.Reader.Entity
/-!
Reading the head of a chart: options, attributes and entities.

Whether a list of options or of entities stands at a place is decided ahead of reading it. For
entities the decision is right whatever follows. For options it is not: `atOption` looks for a word
and an equals sign, and a message may start with just these (`Assigns`).
-/

namespace SeqChart

open Grammar

/-! ## Values of options -/

/-- The word for the automatic width is no number, in whatever case it is written. -/
theorem lowerText_of_numeral {v : String} (numeral : Numeral v.toList) :
    Text.lowerText v ≠ "auto" := by
  intro lowered
  have lowered : Text.lower v.toList = ['a', 'u', 't', 'o'] := by
    simpa [Text.lowerText] using congrArg String.toList lowered
  cases chars : v.toList with
  | nil => rw [chars] at lowered; cases lowered
  | cons c rest =>
    have first : c = '.' ∨ Text.isDigit c = true := by
      rcases numeral with ⟨whole, places, splits, -, digits⟩ | ⟨-, digits⟩
      · cases whole with
        | nil => exact .inl (List.cons.inj (chars.symm.trans splits)).1
        | cons d whole =>
          obtain ⟨rfl, -⟩ := List.cons.inj (chars.symm.trans splits)
          exact .inr (digits c (by simp))
      · exact .inr (digits c (by simp [chars]))
    have other {d : Char} (no : d ≠ '.' ∧ Text.isDigit d = false) : c ≠ d := by
      rintro rfl
      rcases first with dot | digit
      · exact no.1 dot
      · exact absurd digit (by simp [no.2])
    rw [chars, Text.lower, Text.lowerFrom, if_neg (other (by decide)),
      if_neg (other (by decide))] at lowered
    rcases Text.lowerChar_eq_a (List.cons.inj lowered).1 with small | capital
    · exact other (by decide) small
    · exact other (by decide) capital

theorem FlagOption.setting_eq_ok_iff {option : FlagOption} {value : String}
    {setting : Setting String Bool} :
    (OptionName.flag option).setting value = .ok setting ↔ Legal (.flag option) value setting := by
  have apart : ∀ word ∈ falseWords, word ∉ trueWords := by decide
  rw [OptionName.setting]
  constructor
  · intro set
    split at set
    · rename_i isTrue
      cases set
      exact .on (by simpa using isTrue)
    · split at set
      · rename_i isFalse
        cases set
        exact .off (by simpa using isFalse)
      · cases set
  · intro legal
    cases legal with
    | on isTrue => rw [if_pos (by simpa using isTrue)]
    | off isFalse => rw [if_neg (by simpa using apart _ isFalse), if_pos (by simpa using isFalse)]

theorem TextOption.setting_eq_ok_iff {option : TextOption} {value : String}
    {setting : Setting String Bool} :
    (OptionName.text option).setting value = .ok setting ↔ Legal (.text option) value setting := by
  rw [OptionName.setting]
  constructor
  · intro set
    split at set
    · rename_i isAuto
      obtain ⟨rfl, lowered⟩ := isAuto
      cases set
      exact .auto lowered
    · split at set
      · cases set
      · rename_i accepted
        cases set
        cases numeric : option.isNumeric with
        | true => exact .number numeric (Reader.isNumber_iff.1 (by simpa [numeric] using accepted))
        | false =>
          cases option with
          | watermark => exact .watermark
          | _ => cases numeric
  · intro legal
    cases legal with
    | number numeric numeral =>
      rw [if_neg fun isAuto => lowerText_of_numeral numeral isAuto.2,
        if_neg (by simp [Reader.isNumber_iff.2 numeral])]
    | auto lowered => rw [if_pos ⟨rfl, lowered⟩]
    | watermark => rfl

theorem OptionName.setting_eq_ok_iff {option : OptionName} {value : String}
    {setting : Setting String Bool} :
    option.setting value = .ok setting ↔ Legal option value setting := by
  cases option with
  | text option => exact TextOption.setting_eq_ok_iff
  | flag option => exact FlagOption.setting_eq_ok_iff

theorem Grammar.Assignment.head {s r : List Char} {pair : String × String}
    (item : Assignment s pair r) : ∃ c rest, s = c :: rest ∧ Text.isWord c = true := by
  obtain ⟨whole, -⟩ := item
  exact whole.head

namespace Reader

/-! ## Options -/

theorem solid_equals (r : List Char) : Solid ("=".toList ++ r) := solid_cons rfl

theorem setting_eq_ok_iff {s r : List Char} {x : Setting String Bool} :
    setting s = .ok (x, r) ↔ ∃ t, Gap s t ∧ OptionItem t x r := by
  rw [setting, bind_eq_ok_iff]
  constructor
  · rintro ⟨_, t, skipped, read⟩
    refine ⟨t, (skipLayout_eq_ok_iff.1 skipped).1, ?_⟩
    rw [get_bind] at read
    obtain ⟨key, u, taken, read⟩ := bind_eq_ok_iff.1 read
    split at read
    · cases read
    · rename_i nonempty
      have whole := word_of_nonempty taken (by simpa [ofList_isEmpty] using nonempty)
      cases known : OptionName.ofName? (Text.lowerText (String.ofList key)) with
      | none => rw [known] at read; cases read
      | some option =>
        rw [known] at read
        obtain ⟨_, v, equals, read⟩ := bind_eq_ok_iff.1 read
        obtain ⟨_, w, skipped', read⟩ := bind_eq_ok_iff.1 read
        obtain ⟨gap, solid⟩ := skipLayout_eq_ok_iff.1 skipped'
        rw [get_bind] at read
        obtain ⟨text, x, given, read⟩ := bind_eq_ok_iff.1 read
        obtain ⟨w', gap', given'⟩ := value_eq_ok_iff.1 given
        obtain rfl := Gap.unique gap' given'.solid (Gap.refl w) solid
        cases legal : option.setting text with
        | error cause => rw [legal] at read; cases read
        | ok x =>
          rw [legal] at read
          obtain ⟨rfl, rfl⟩ := pure_eq_ok_iff.1 read
          exact .mk ⟨key, whole, OptionName.ofName?_eq_some_iff.1 known⟩
            ((expect_eq_ok_iff solid_equals).1 equals) gap given'
            (OptionName.setting_eq_ok_iff.1 legal)
  · rintro ⟨t, gap, item⟩
    obtain ⟨⟨key, whole, lowered⟩, equals, gap', given, legal⟩ := item
    refine ⟨(), t, skipLayout_of_gap gap whole.solid, ?_⟩
    rw [get_bind, bind_of_ok (word_of_word whole),
      if_neg (by simpa [ofList_isEmpty] using whole.nonempty),
      OptionName.ofName?_eq_some_iff.2 lowered]
    dsimp only
    rw [bind_of_ok ((expect_eq_ok_iff solid_equals).2 equals),
      bind_of_ok (skipLayout_of_gap gap' given.solid), get_bind,
      bind_of_ok (value_eq_ok_iff.2 ⟨_, Gap.refl _, given⟩), OptionName.setting_eq_ok_iff.2 legal]
    rfl

theorem setting_recognises : Recognises (fun _ => OptionItem) (fun _ => setting) := by
  refine Recognises.of_iff ?_ setting_eq_ok_iff
  rintro s x r ⟨keyword, -⟩
  exact keyword.solid

/-! ## Attributes -/

theorem assignment_eq_ok_iff {s r : List Char} {pair : String × String} :
    assignment s = .ok (pair, r) ↔ ∃ t, Gap s t ∧ Assignment t pair r := by
  rw [assignment, bind_eq_ok_iff]
  constructor
  · rintro ⟨_, t, skipped, read⟩
    refine ⟨t, (skipLayout_eq_ok_iff.1 skipped).1, ?_⟩
    rw [get_bind] at read
    obtain ⟨key, u, taken, read⟩ := bind_eq_ok_iff.1 read
    split at read
    · cases read
    · rename_i nonempty
      have whole := word_of_nonempty taken (by simpa [ofList_isEmpty] using nonempty)
      cases known : attributeName? (String.ofList key) with
      | none => rw [known] at read; cases read
      | some name =>
        rw [known] at read
        obtain ⟨_, v, equals, read⟩ := bind_eq_ok_iff.1 read
        obtain ⟨text, w, given, read⟩ := bind_eq_ok_iff.1 read
        obtain ⟨x, gap, given'⟩ := value_eq_ok_iff.1 given
        obtain ⟨rfl, rfl⟩ := pure_eq_ok_iff.1 read
        exact .mk whole known ((expect_eq_ok_iff solid_equals).1 equals) gap given'
  · rintro ⟨t, gap, item⟩
    obtain ⟨whole, known, equals, gap', given⟩ := item
    refine ⟨(), t, skipLayout_of_gap gap whole.solid, ?_⟩
    rw [get_bind, bind_of_ok (word_of_word whole),
      if_neg (by simpa [ofList_isEmpty] using whole.nonempty), known]
    dsimp only
    rw [bind_of_ok ((expect_eq_ok_iff solid_equals).2 equals),
      bind_of_ok (value_eq_ok_iff.2 ⟨_, gap', given⟩)]
    rfl

theorem assignment_recognises : Recognises (fun _ => Assignment) (fun _ => assignment) := by
  refine Recognises.of_iff ?_ assignment_eq_ok_iff
  rintro s pair r ⟨whole, -⟩
  exact whole.solid

/-- Where no attributes stand, the layout behind their place is taken all the same. -/
theorem attributes_sound {s r : List Char} {attrs : Mapping String String}
    (read : attributes s = .ok (attrs, r)) : ∃ t, Attributes s attrs t ∧ Gap t r := by
  rw [attributes, bind_eq_ok_iff] at read
  obtain ⟨_, t, skipped, read⟩ := read
  have gap := (skipLayout_eq_ok_iff.1 skipped).1
  obtain ⟨opened, u, accepted, rest⟩ := bind_eq_ok_iff.1 read
  cases opened with
  | false =>
    obtain ⟨rfl, -⟩ := accept_eq_false accepted
    obtain ⟨rfl, rfl⟩ := pure_eq_ok_iff.1 rest
    exact ⟨s, .absent, gap⟩
  | true =>
    have bracket : t = '[' :: u := accept_eq_true accepted
    obtain rfl := bracket
    rw [if_pos rfl] at rest
    obtain ⟨_, v, skipped', rest⟩ := bind_eq_ok_iff.1 rest
    obtain ⟨gap', solid⟩ := skipLayout_eq_ok_iff.1 skipped'
    obtain ⟨closed, w, accepted', last⟩ := bind_eq_ok_iff.1 rest
    cases closed with
    | true =>
      have bracket : v = ']' :: w := accept_eq_true accepted'
      obtain rfl := bracket
      obtain ⟨rfl, rfl⟩ := pure_eq_ok_iff.1 last
      exact ⟨w, .empty gap gap', Gap.refl w⟩
    | false =>
      obtain ⟨rfl, -⟩ := accept_eq_false accepted'
      rw [if_neg Bool.false_ne_true] at last
      obtain ⟨pairs, x, listed, last⟩ := bind_eq_ok_iff.1 last
      obtain ⟨rfl, rfl⟩ := pure_eq_ok_iff.1 last
      obtain ⟨y, z, gap'', list, after⟩ := series_sound assignment_recognises _ listed
      obtain rfl := Gap.unique gap'' (list.solid assignment_recognises.solid) (Gap.refl w) solid
      rcases after with after | ⟨⟨pair, -, closes⟩, -⟩
      · exact ⟨x, .some gap gap' list after, Gap.refl x⟩
      · cases closes

theorem attributes_complete {s t r : List Char} {attrs : Mapping String String}
    (stands : Attributes s attrs t) (gap : Gap t r) (solid : Solid r) (other : r.head? ≠ some '[') :
    ∃ u, attributes s = .ok (attrs, u) ∧ Gap u r := by
  have bracket (r : List Char) : Solid ('[' :: r) := solid_cons rfl
  have bracket' (r : List Char) : Solid (']' :: r) := solid_cons rfl
  cases stands with
  | absent =>
    refine ⟨r, ?_, Gap.refl r⟩
    rw [attributes, bind_of_ok (skipLayout_of_gap gap solid), bind_of_ok (accept_head other)]
    rfl
  | @empty u _ opened closed =>
    refine ⟨t, ?_, gap⟩
    rw [attributes, bind_of_ok (skipLayout_of_gap opened (bracket u)),
      bind_of_ok (accept_cons '[' u), if_pos rfl,
      bind_of_ok (skipLayout_of_gap closed (bracket' t)), bind_of_ok (accept_cons ']' t)]
    rfl
  | @some u v w _ pairs opened gap' list closed =>
    refine ⟨t, ?_, gap⟩
    have solid' := list.solid assignment_recognises.solid
    have notClosed : v.head? ≠ some ']' := by
      obtain ⟨pair, x, item⟩ := list.first
      obtain ⟨c, rest, rfl, letter⟩ := item.head
      intro same
      obtain rfl := Option.some.inj same
      exact absurd letter (by decide)
    rw [attributes, bind_of_ok (skipLayout_of_gap opened (bracket u)),
      bind_of_ok (accept_cons '[' u), if_pos rfl, bind_of_ok (skipLayout_of_gap gap' solid'),
      bind_of_ok (accept_head notClosed), if_neg Bool.false_ne_true,
      bind_of_ok (series_of_close assignment_recognises _ (by decide) (by decide)
        (by decide) (Gap.refl v) list closed)]
    rfl

/-! ## Entities -/

theorem entity_recognises : Recognises EntityItem entity where
  solid := by
    rintro before s e r ⟨named, -⟩
    exact named.solid
  sound := by
    intro before s e r read
    rw [entity, bind_eq_ok_iff] at read
    obtain ⟨n, u, taken, read⟩ := read
    obtain ⟨t, gap, named⟩ := name_eq_ok_iff.1 taken
    obtain ⟨attrs, v, taken', read⟩ := bind_eq_ok_iff.1 read
    obtain ⟨rfl, rfl⟩ := pure_eq_ok_iff.1 read
    obtain ⟨w, stands, gap'⟩ := attributes_sound taken'
    exact ⟨t, w, gap, .mk named stands, gap'⟩
  complete := by
    rintro before s t e u r gap ⟨named, stands⟩ after solid other
    obtain ⟨v, taken, after'⟩ := attributes_complete stands after solid other
    refine ⟨v, ?_, after'⟩
    rw [entity, bind_of_ok (name_eq_ok_iff.2 ⟨t, gap, named⟩), bind_of_ok taken]
    rfl

/-! ## Looking ahead -/

theorem ahead_eq_ok_iff {p : Reader α} {s r : List Char} {a : α} :
    ahead p s = .ok (a, r) ↔ r = s ∧ ∃ t, p s = .ok (a, t) := by
  rw [ahead]
  cases p s with
  | error e => simp [Except.map]
  | ok result =>
    obtain ⟨b, t⟩ := result
    constructor
    · intro same
      cases same
      exact ⟨rfl, t, rfl⟩
    · rintro ⟨rfl, t', same⟩
      cases same
      rfl

theorem assigns_of_option {s r : List Char} {x : Setting String Bool} (item : OptionItem s x r) :
    Assigns s := by
  obtain ⟨⟨_, whole, -⟩, equals, -⟩ := item
  exact ⟨_, _, _, whole, equals⟩

theorem atOption_of_assigns {s : List Char} (assigns : Assigns s) : atOption s = .ok (true, s) := by
  obtain ⟨w, t, u, whole, equals⟩ := assigns
  refine ahead_eq_ok_iff.2 ⟨rfl, u, ?_⟩
  rw [bind_of_ok (word_of_word whole), if_neg (by simpa using whole.nonempty),
    bind_of_ok (skipLayout_of_gap equals (solid_cons rfl))]
  exact accept_cons '=' u

/-- Looking for an option fails only where a comment behind a word is never closed. -/
theorem atOption_of_other {s : List Char} (other : ¬ Assigns s)
    (goesOn : ∀ w t, Word s w t → ∃ u, Gap t u ∧ Solid u) : atOption s = .ok (false, s) := by
  rw [atOption, ahead_eq_ok_iff]
  refine ⟨rfl, ?_⟩
  cases empty : (s.takeWhile Text.isWord).isEmpty with
  | true =>
    refine ⟨s.dropWhile Text.isWord, ?_⟩
    rw [bind_of_ok (show word s = _ from rfl), if_pos empty]
    rfl
  | false =>
    have whole : Word s _ _ := word_of_takeWhile (by simpa using empty)
    obtain ⟨u, gap, solid⟩ := goesOn _ _ whole
    refine ⟨u, ?_⟩
    rw [bind_of_ok (word_of_word whole), if_neg (by simp [empty]),
      bind_of_ok (skipLayout_of_gap gap solid)]
    refine accept_of_absent ?_
    rintro ⟨v, rfl⟩
    exact other ⟨_, _, v, whole, gap⟩

theorem assigns_of_atOption {r : List Char} (read : atOption s = .ok (true, r)) : Assigns s := by
  obtain ⟨-, t, read⟩ := ahead_eq_ok_iff.1 read
  obtain ⟨w, u, taken, read⟩ := bind_eq_ok_iff.1 read
  split at read
  · cases (pure_eq_ok_iff.1 read).1
  · rename_i nonempty
    obtain ⟨_, v, skipped, read⟩ := bind_eq_ok_iff.1 read
    obtain rfl : v = '=' :: t := accept_eq_true read
    exact ⟨w, u, t, word_of_nonempty taken (by simpa using nonempty),
      (skipLayout_eq_ok_iff.1 skipped).1⟩

theorem not_assigns_of_atOption {s r : List Char} (read : atOption s = .ok (false, r)) :
    r = s ∧ ¬ Assigns s := by
  refine ⟨(ahead_eq_ok_iff.1 read).1, fun assigns => ?_⟩
  cases (atOption_of_assigns assigns).symm.trans read

theorem atEntity_leaves {s r : List Char} {found : Bool} (read : atEntity s = .ok (found, r)) :
    r = s := by
  unfold atEntity at read
  dsimp only at read
  split at read
  · cases read
    rfl
  · split at read
    · cases read
      rfl
    · rename_i t _
      cases outcome : skipLayout t with
      | error => rw [outcome] at read; cases read
      | ok result =>
        rw [outcome] at read
        cases read
        rfl

/-- Behind a name, entities are told from arcs by the next character. -/
theorem atEntity_of_name {s t u : List Char} {n : String} (named : Name s n t) (gap : Gap t u)
    (solid : Solid u) : atEntity s = .ok (u.head?.all [',', ';', '['].contains, s) := by
  obtain ⟨c, rest, rfl, first⟩ := named.head
  have absent {d : Char} {token : List Char} (no : d ≠ '"' ∧ Text.isWord d = false) :
      after? (d :: token) (c :: rest) = none := by
    refine after?_eq_none_iff.2 ?_
    rintro ⟨_, same⟩
    obtain rfl := (List.cons.inj same).1
    rcases first with quote | letter
    · exact no.1 quote
    · exact absurd letter (by simp [no.2])
  have noBrace : after? "\x7d".toList (c :: rest) = none := absent (by decide)
  have noStar : after? broadcast.toList (c :: rest) = none := absent (by decide)
  have noEmpty : (EmptyKind.all.any fun kind => (after? kind.token.toList (c :: rest)).isSome) =
      false := by
    refine List.any_eq_false.2 fun kind _ => ?_
    have none : after? kind.token.toList (c :: rest) = none := by
      cases kind <;> exact absent (by decide)
    simp [none]
  unfold atEntity
  dsimp only
  refine (if_neg ?_).trans ?_
  · rw [noBrace, noStar, noEmpty]
    simp
  · rw [name_of_name named]
    dsimp only
    rw [skipLayout_of_gap gap solid]
    rfl

theorem atEntity_of_token {token s : List Char}
    (known : token = "\x7d".toList ∨ token = broadcast.toList ∨
      ∃ kind : EmptyKind, token = kind.token.toList) :
    atEntity (token ++ s) = .ok (false, token ++ s) := by
  unfold atEntity
  dsimp only
  refine if_pos ?_
  rcases known with rfl | rfl | ⟨kind, rfl⟩
  · rw [after?_append]
    simp
  · rw [after?_append]
    simp
  · have found : EmptyKind.all.any (fun other =>
        (after? other.token.toList (kind.token.toList ++ s)).isSome) = true :=
      List.any_eq_true.2 ⟨kind, EmptyKind.mem_all kind, by rw [after?_append]; rfl⟩
    rw [found, Bool.or_true]

/-! ## The parts of a head -/

theorem options_of_list {s t r : List Char} {settings : List (Setting String Bool)}
    (list : ListOf (fun _ => OptionItem) [] s settings t) (closed : Gap t (';' :: r)) :
    options s = .ok (Options.ofSettings settings, r) := by
  rw [options, bind_of_ok (series_of_close setting_recognises _ (by decide) (by decide)
    (by decide) (Gap.refl s) list closed)]
  rfl

theorem optionsPart_sound {before next : List String} {s r : List Char}
    {options : Options String Bool String} (solid : Solid s)
    (read : optionsPart before s = .ok ((options, next), r)) :
    OptionsPart before s options next r ∧ Solid r ∧ (options = {} → ¬ Assigns s) := by
  rw [optionsPart, bind_eq_ok_iff] at read
  obtain ⟨found, t, looked, read⟩ := read
  cases found with
  | false =>
    obtain ⟨rfl, other⟩ := not_assigns_of_atOption looked
    obtain ⟨same, rfl⟩ := pure_eq_ok_iff.1 read
    cases same
    exact ⟨.absent, solid, fun _ => other⟩
  | true =>
    obtain ⟨rfl, -⟩ := ahead_eq_ok_iff.1 looked
    rw [if_pos rfl] at read
    obtain ⟨options', u, taken, rest⟩ := bind_eq_ok_iff.1 read
    obtain ⟨texts, v, layout, last⟩ := bind_eq_ok_iff.1 rest
    obtain ⟨same, rfl⟩ := pure_eq_ok_iff.1 last
    cases same
    obtain ⟨layout, solid'⟩ := comments_eq_ok_iff.1 layout
    rw [Reader.options, bind_eq_ok_iff] at taken
    obtain ⟨settings, w, listed, taken⟩ := taken
    obtain ⟨rfl, rfl⟩ := pure_eq_ok_iff.1 taken
    obtain ⟨x, y, gap, list, after⟩ := series_sound setting_recognises _ listed
    obtain rfl := Gap.unique gap (list.solid setting_recognises.solid) (Gap.refl t) solid
    rcases after with closed | ⟨⟨_, -, closes⟩, -⟩
    · refine ⟨.present list closed layout, solid', fun unset => ?_⟩
      have none := (Options.foldl_set_eq unset).2
      cases list <;> cases none
    · cases closes

theorem optionsPart_of_absent {before : List String} {s : List Char}
    (absent : atOption s = .ok (false, s)) : optionsPart before s = .ok (({}, before), s) := by
  rw [optionsPart, bind_of_ok absent]
  rfl

/-- Behind a list of options reading goes on with the comments that follow. -/
theorem optionsPart_of_list {β : Type} {before : List String} {s t u : List Char}
    {settings : List (Setting String Bool)} (list : ListOf (fun _ => OptionItem) [] s settings t)
    (closed : Gap t (';' :: u)) (f : Options String Bool String × List String → Reader β) :
    (optionsPart before >>= f) s =
      (comments >>= fun next => f (Options.ofSettings settings, next)) u := by
  obtain ⟨x, v, item⟩ := list.first
  rw [optionsPart, bind_assoc, bind_of_ok (atOption_of_assigns (assigns_of_option item)),
    if_pos rfl, bind_assoc, bind_of_ok (options_of_list list closed), bind_assoc]
  rfl

theorem entitiesPart_sound {before next : List String} {s r : List Char}
    {entities : List (Entity String String)} (solid : Solid s)
    (read : entitiesPart before s = .ok ((entities, next), r)) :
    EntitiesPart before s entities next r ∧ Solid r := by
  rw [entitiesPart, bind_eq_ok_iff] at read
  obtain ⟨found, t, looked, read⟩ := read
  obtain rfl := atEntity_leaves looked
  cases found with
  | false =>
    obtain ⟨same, rfl⟩ := pure_eq_ok_iff.1 read
    cases same
    exact ⟨.absent, solid⟩
  | true =>
    rw [if_pos rfl] at read
    obtain ⟨entities', u, listed, rest⟩ := bind_eq_ok_iff.1 read
    obtain ⟨texts, v, layout, last⟩ := bind_eq_ok_iff.1 rest
    obtain ⟨same, rfl⟩ := pure_eq_ok_iff.1 last
    cases same
    obtain ⟨layout, solid'⟩ := comments_eq_ok_iff.1 layout
    obtain ⟨x, y, gap, list, after⟩ := series_sound entity_recognises _ listed
    obtain rfl := Gap.unique gap (list.solid entity_recognises.solid) (Gap.refl t) solid
    rcases after with closed | ⟨⟨_, -, closes⟩, -⟩
    · exact ⟨.present list closed layout, solid'⟩
    · cases closes

theorem entitiesPart_of_absent {before : List String} {s : List Char}
    (absent : atEntity s = .ok (false, s)) : entitiesPart before s = .ok (([], before), s) := by
  rw [entitiesPart, bind_of_ok absent]
  rfl

/-- What follows the name in an entity: a bracket, or what is behind the entity. -/
theorem behind_entity {before : List String} {s t : List Char} {e : Entity String String}
    (item : EntityItem before s e t) {c : Char} {u : List Char} (after : Gap t (c :: u))
    (separates : c = ',' ∨ c = ';') :
    ∃ v c' u', Name s e.name v ∧ Gap v (c' :: u') ∧ [',', ';', '['].contains c' = true := by
  have known : [',', ';', '['].contains c = true := by
    rcases separates with rfl | rfl <;> rfl
  obtain ⟨named, stands⟩ := item
  cases stands with
  | absent => exact ⟨_, c, u, named, after, known⟩
  | empty opened _ => exact ⟨_, '[', _, named, opened, rfl⟩
  | some opened _ _ _ => exact ⟨_, '[', _, named, opened, rfl⟩

theorem plain_behind_entity {c : Char} (known : [',', ';', '['].contains c = true) :
    isPlain c = true ∧ c ≠ '=' := by
  have among : c = ',' ∨ c = ';' ∨ c = '[' := by simpa using known
  rcases among with rfl | rfl | rfl <;> decide

theorem behind_first_entity {before : List String} {s t u : List Char}
    {entities : List (Entity String String)} (list : ListOf EntityItem before s entities t)
    (closed : Gap t (';' :: u)) :
    ∃ n v c w, Name s n v ∧ Gap v (c :: w) ∧ [',', ';', '['].contains c = true := by
  cases list with
  | one item => exact ⟨_, behind_entity item closed (.inr rfl)⟩
  | more item after _ _ => exact ⟨_, behind_entity item after (.inl rfl)⟩

theorem atEntity_of_list {before : List String} {s t u : List Char}
    {entities : List (Entity String String)} (list : ListOf EntityItem before s entities t)
    (closed : Gap t (';' :: u)) : atEntity s = .ok (true, s) := by
  obtain ⟨n, v, c, w, named, gap, known⟩ := behind_first_entity list closed
  rw [atEntity_of_name named gap (solid_cons (plain_behind_entity known).1)]
  simpa using known

/-- Behind a list of entities reading goes on with the comments that follow. -/
theorem entitiesPart_of_list {β : Type} {before : List String} {s t u : List Char}
    {es : List (Entity String String)} (list : ListOf EntityItem before s es t)
    (closed : Gap t (';' :: u)) (f : List (Entity String String) × List String → Reader β) :
    (entitiesPart before >>= f) s = (comments >>= fun next => f (es, next)) u := by
  have taken : entities before s = .ok (es, u) :=
    series_of_close entity_recognises _ (by decide) (by decide) (by decide) (Gap.refl s)
      list closed
  rw [entitiesPart, bind_assoc, bind_of_ok (atEntity_of_list list closed), if_pos rfl, bind_assoc,
    bind_of_ok taken, bind_assoc]
  rfl

end Reader

end SeqChart
