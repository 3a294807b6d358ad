import SeqChart.Proofs.Grammar.Owners
import SeqChart.Proofs.Reading.Chart
/-!
The runs of texts of the grammar. Main statement, `Program.places`: the comments before the first
token are those of the chart, and the runs behind it place the comments of entities and arcs.

Each rule of the grammar says what runs its text has. A rule that has no entity or arc inside has
only runs that lead nowhere (`Within`); the others place what is inside.
-/

namespace SeqChart.Grammar

/-! ## Runs that lead nowhere -/

theorem not_leads_of_before {run : Run} (other : run.before ∉ marks) : ¬ run.Leads :=
  fun leads => other leads.1

theorem not_leads_of_closing {run : Run} {c : Char} {r : List Char} (rest : run.rest = c :: r)
    (closing : c ∈ [',', ';', '\x7d']) : ¬ run.Leads := by
  rintro ⟨-, ⟨d, t, same, other⟩, -⟩
  obtain ⟨rfl, -⟩ := List.cons.inj (rest.symm.trans same)
  exact other closing

theorem not_leads_of_sets {run : Run} (sets : Sets run.rest) : ¬ run.Leads :=
  fun leads => leads.2.2 sets

theorem not_leads_of_end {before : Char} {comments : List String} :
    ¬ (⟨before, comments, []⟩ : Run).Leads := by
  rintro ⟨-, ⟨d, t, same, -⟩, -⟩
  cases same

/-- From behind a token that ends with the first character on to the end of one that ends with the
second, the runs place these owners. -/
def Through (c : Char) (s : List Char) (d : Char) (r : List Char) (owners : List Owner) : Prop :=
  ∃ runs, Passes c s runs d r ∧ Places runs owners

/-- The same from the start of a token. -/
def Spans (s : List Char) (d : Char) (r : List Char) (owners : List Owner) : Prop :=
  ∃ c t, Solid s ∧ Token s c t ∧ Through c t d r owners

section

variable {c d e : Char} {s t r : List Char} {comments : List String} {owners others : List Owner}

theorem Through.refl (c : Char) (s : List Char) : Through c s c s [] := ⟨[], .done, .nil⟩

theorem Through.trans (first : Through c s d t owners) (second : Through d t e r others) :
    Through c s e r (owners ++ others) := by
  obtain ⟨runs, passes, places⟩ := first
  obtain ⟨more, passes', places'⟩ := second
  exact ⟨runs ++ more, passes.trans passes', places.append places'⟩

theorem Spans.through (first : Spans s d t owners) (second : Through d t e r others) :
    Spans s e r (owners ++ others) := by
  obtain ⟨c, u, solid, token, through⟩ := first
  exact ⟨c, u, solid, token, through.trans second⟩

/-- A run that leads nowhere comes before a token. -/
theorem Spans.behind (layout : Layout s comments t) (other : ¬ (⟨c, comments, t⟩ : Run).Leads)
    (spans : Spans t d r owners) : Through c s d r owners := by
  obtain ⟨b, u, solid, token, runs, passes, places⟩ := spans
  exact ⟨_, .step layout solid token passes, .lost other places⟩

/-- A run comes before the token that its comments go to. -/
theorem Spans.owned {owner : Owner} (layout : Layout s comments t)
    (leads : (⟨c, comments, t⟩ : Run).Leads) (stands : owner.StandsAt t)
    (own : owner.comments = kept c comments) (spans : Spans t d r owners) :
    Through c s d r (owner :: owners) := by
  obtain ⟨b, u, solid, token, runs, passes, places⟩ := spans
  exact ⟨_, .step layout solid token passes, .owned leads stands own places⟩

theorem spans_of_char (plain : isPlain c = true) (noQuote : c ≠ '"') (r : List Char) :
    Spans (c :: r) c r [] :=
  ⟨c, r, solid_cons plain, .plain noQuote, Through.refl c r⟩

/-- A comma, a semicolon or a closing brace comes next. -/
theorem through_closing (gap : Gap s (d :: r)) (closing : d ∈ [',', ';', '\x7d']) (c : Char) :
    Through c s d r [] := by
  obtain ⟨comments, layout⟩ := gap
  have char : isPlain d = true ∧ d ≠ '"' := by
    simp only [List.mem_cons, List.not_mem_nil, or_false] at closing
    rcases closing with rfl | rfl | rfl <;> decide
  exact (spans_of_char char.1 char.2 r).behind layout (not_leads_of_closing rfl closing)

end

/-- Tokens without anything that has comments, and not a mark at their end. -/
def Within (s r : List Char) : Prop := ∃ d, d ∉ marks ∧ Spans s d r []

theorem Within.trans {s t u r : List Char} (first : Within s t) (gap : Gap t u)
    (second : Within u r) : Within s r := by
  obtain ⟨c, noMark, spans⟩ := first
  obtain ⟨comments, layout⟩ := gap
  obtain ⟨d, noMark', spans'⟩ := second
  exact ⟨d, noMark', spans.through (spans'.behind layout (not_leads_of_before noMark))⟩

/-- Behind a comma something is set, and so nothing has comments here. -/
theorem Within.comma {s t u v r : List Char} (first : Within s t) (gap : Gap t (',' :: u))
    (gap' : Gap u v) (sets : Sets v) (second : Within v r) : Within s r := by
  obtain ⟨c, -, spans⟩ := first
  obtain ⟨comments, layout⟩ := gap'
  obtain ⟨d, noMark, spans'⟩ := second
  exact ⟨d, noMark, (spans.through (through_closing gap (by decide) c)).through
    (spans'.behind layout (not_leads_of_sets sets))⟩

/-! ## Words and what is set -/

/-- A character that can stand in a token which is neither a string nor ends with a mark. -/
def isInner (c : Char) : Bool := isPlain c && c != '"' && !marks.contains c

theorem isInner_iff {c : Char} : isInner c = true ↔ isPlain c = true ∧ c ≠ '"' ∧ c ∉ marks := by
  simp [isInner, and_assoc]

theorem isInner_of_isWord {c : Char} (letter : Text.isWord c = true) : isInner c = true := by
  have other {d : Char} (no : Text.isWord d = false) : c ≠ d := by
    rintro rfl
    simp [no] at letter
  refine isInner_iff.2 ⟨isPlain_of_isWord letter, other (by decide), ?_⟩
  simp only [marks, List.mem_cons, List.not_mem_nil, or_false, not_or]
  exact ⟨other (by decide), other (by decide), other (by decide), other (by decide)⟩

theorem within_of_char {c : Char} (inner : isInner c = true) (r : List Char) :
    Within (c :: r) r := by
  obtain ⟨plain, noQuote, noMark⟩ := isInner_iff.1 inner
  exact ⟨c, noMark, spans_of_char plain noQuote r⟩

theorem within_of_chars {token r : List Char} (nonempty : token ≠ [])
    (inner : ∀ c ∈ token, isInner c = true) : Within (token ++ r) r := by
  induction token with
  | nil => exact absurd rfl nonempty
  | cons c rest step =>
    obtain ⟨first, others⟩ := List.forall_mem_cons.1 inner
    have here := within_of_char first (rest ++ r)
    cases rest with
    | nil => exact here
    | cons d more => exact here.trans (Gap.refl _) (step (by simp) others)

theorem Word.within {s w r : List Char} (word : Word s w r) : Within s r := by
  rw [word.text]
  exact within_of_chars word.nonempty fun c member => isInner_of_isWord (word.letters c member)

theorem Keyword.within {token : String} {s r : List Char} (keyword : Keyword token s r) :
    Within s r := by
  obtain ⟨word, whole, -⟩ := keyword
  exact whole.within

theorem Quoted.within {s v r : List Char} (quoted : Quoted s v r) : Within s r :=
  ⟨'"', by decide, '"', r, quoted.solid, .quoted quoted, Through.refl _ r⟩

theorem Operator.within {s r : List Char} {kind : ArcKind} (operator : Operator s kind r) :
    Within s r := by
  have inner : kind.token.toList.all isInner = true := by cases kind <;> decide
  have nonempty : kind.token.toList ≠ [] := by cases kind <;> decide
  rw [operator.text]
  exact within_of_chars nonempty (List.all_eq_true.1 inner)

theorem Fraction.within {s v r : List Char} (fraction : Fraction s v r) : Within s r := by
  obtain ⟨rfl, ⟨whole, places, rfl, -, digits⟩, -⟩ := fraction
  refine within_of_chars (by simp) fun c member => ?_
  have digit (inside : c ∈ whole ++ places) :=
    isInner_of_isWord (Text.isWord_of_isDigit (digits c inside))
  rcases List.mem_append.1 member with inWhole | behind
  · exact digit (List.mem_append_left _ inWhole)
  · rcases List.mem_cons.1 behind with rfl | inPlaces
    · decide
    · exact digit (List.mem_append_right _ inPlaces)

theorem Value.within {s r : List Char} {v : String} (value : Value s v r) : Within s r := by
  cases value with
  | quoted quoted => exact quoted.within
  | fraction fraction => exact fraction.within
  | word word _ => exact word.within

theorem Name.within {s r : List Char} {n : String} (named : Name s n r) : Within s r := by
  cases named with
  | bare word _ => exact word.within
  | quoted quoted _ => exact quoted.within

theorem End.within {s r : List Char} {n : String} (ended : End s n r) : Within s r := by
  cases ended with
  | all => exact within_of_char (by decide) _
  | name named => exact named.within

/-- An option and an attribute: a word, an equals sign and a value. -/
theorem set_within {s w t u v r : List Char} {x : String} (word : Word s w t)
    (equals : Gap t ('=' :: u)) (gap : Gap u v) (value : Value v x r) : Within s r ∧ Sets s := by
  have sign : Within ('=' :: u) u := within_of_char (by decide) u
  refine ⟨(word.within.trans equals sign).trans gap value.within, w, t, u, word, equals, ?_⟩
  -- A value starts with none of the characters that follow the sign in an operator.
  have other {c : Char} (plain : isPlain c = true) (noValue : c ≠ '"' ∧ c ≠ '.')
      (noWord : Text.isWord c = false) : u.head? ≠ some c := by
    intro first
    obtain ⟨rest, rfl⟩ := List.head?_eq_some_iff.1 first
    obtain rfl := Reader.Gap.unique gap value.solid (Gap.refl _) (solid_cons plain)
    obtain ⟨d, _, same, quote | point | letter⟩ := value.head
    all_goals obtain ⟨rfl, -⟩ := List.cons.inj same
    · exact noValue.1 quote
    · exact noValue.2 point
    · simp [noWord] at letter
  exact ⟨other (by decide) (by decide) (by decide), other (by decide) (by decide) (by decide)⟩

theorem Assignment.within {s r : List Char} {pair : String × String}
    (item : Assignment s pair r) : Within s r ∧ Sets s := by
  obtain ⟨word, -, equals, gap, value⟩ := item
  exact set_within word equals gap value

theorem OptionItem.within {s r : List Char} {x : Setting String Bool} (item : OptionItem s x r) :
    Within s r ∧ Sets s := by
  obtain ⟨⟨word, whole, -⟩, equals, gap, value, -⟩ := item
  exact set_within whole equals gap value

theorem list_within {α : Type} {Item : List Char → α → List Char → Prop}
    (each : ∀ {s a r}, Item s a r → Within s r ∧ Sets s) {before : List String} {s r : List Char}
    {as : List α} (list : ListOf (fun _ => Item) before s as r) : Within s r ∧ Sets s := by
  induction list with
  | one item => exact each item
  | more item gap layout _ step =>
    obtain ⟨within, sets⟩ := each item
    exact ⟨within.comma gap layout.gap step.2 step.1, sets⟩

theorem Within.attributes {s t r : List Char} {attrs : Mapping String String}
    (within : Within s t) (stands : Attributes t attrs r) : Within s r := by
  have bracket {c : Char} (known : c = '[' ∨ c = ']') (r : List Char) : Within (c :: r) r := by
    rcases known with rfl | rfl
    · exact within_of_char (by decide) r
    · exact within_of_char (by decide) r
  cases stands with
  | absent => exact within
  | empty opened closed =>
    exact (within.trans opened (bracket (.inl rfl) _)).trans closed (bracket (.inr rfl) _)
  | some opened gap list closed =>
    have inside := (list_within Assignment.within list).1
    exact ((within.trans opened (bracket (.inl rfl) _)).trans gap inside).trans closed
      (bracket (.inr rfl) _)

theorem EntityItem.within {before : List String} {s r : List Char} {e : Entity String String}
    (item : EntityItem before s e r) : Within s r := by
  obtain ⟨named, stands⟩ := item
  exact named.within.attributes stands

/-! ## Where entities and arcs start -/

theorem opens_of_name {s t u : List Char} {n : String} {c : Char} (named : Name s n t)
    (gap : Gap t (c :: u)) (plain : isPlain c = true)
    (operator : c = '=' → u.head? = some '>' ∨ u.head? = some '=') : Opens s := by
  refine ⟨?_, ?_⟩
  · obtain ⟨d, rest, rfl, quote | letter⟩ := named.head
    · exact ⟨d, rest, rfl, by rw [quote]; decide⟩
    · refine ⟨d, rest, rfl, fun closing => (isInner_iff.1 (isInner_of_isWord letter)).2.2 ?_⟩
      exact List.mem_cons_of_mem _ closing
  · rintro ⟨w, t', v, word, equals, noArrow, noEquals⟩
    obtain rfl := named.of_word word
    obtain ⟨rfl, rfl⟩ :=
      List.cons.inj (Reader.Gap.unique gap (solid_cons plain) equals (solid_cons rfl))
    rcases operator rfl with arrow | sign
    · exact noArrow arrow
    · exact noEquals sign

theorem opens_of_sign {c : Char} {r : List Char} (noWord : Text.isWord c = false)
    (noClosing : c ∉ [',', ';', '\x7d']) : Opens (c :: r) := by
  refine ⟨⟨c, r, rfl, noClosing⟩, ?_⟩
  rintro ⟨_, _, _, word, -⟩
  exact not_word_cons noWord word

theorem EntityItem.opens {before : List String} {s t u : List Char} {e : Entity String String}
    {c : Char} (item : EntityItem before s e t) (after : Gap t (c :: u))
    (separates : c = ',' ∨ c = ';') : Opens s := by
  obtain ⟨v, d, w, named, gap, known⟩ := Reader.behind_entity item after separates
  obtain ⟨plain, other⟩ := Reader.plain_behind_entity known
  exact opens_of_name named gap plain fun equals => absurd equals other

section

variable {Block : List Char → Rows String String → List Char → Prop} {before : List String}
  {s r : List Char}

theorem ArcItem.opens {a : Arc String String} (item : ArcItem Block before s a r) : Opens s := by
  have keyword {n token : String} {s t u v : List Char} (named : Name s n t) (gap : Gap t u)
      (keyword : Keyword token u v) : Opens s := by
    obtain ⟨word, whole, -⟩ := keyword
    obtain ⟨c, rest, rfl, letter⟩ := whole.head
    refine opens_of_name named gap (isPlain_of_isWord letter) ?_
    rintro rfl
    exact absurd letter (by decide)
  cases item with
  | @empty _ _ kind _ _ => cases kind <;> exact opens_of_sign (by decide) (by decide)
  | @message _ _ _ _ _ _ _ _ _ kind _ source gap operator =>
    cases source with
    | all => exact opens_of_sign (by decide) (by decide)
    | name named =>
      obtain rfl := operator.text
      have head : ∃ c, kind.token.toList.head? = some c ∧ isPlain c = true := by
        cases kind <;> exact ⟨_, rfl, by decide⟩
      obtain ⟨c, first, plain⟩ := head
      obtain ⟨rest, token⟩ := List.head?_eq_some_iff.1 first
      rw [token] at gap
      refine opens_of_name named gap plain ?_
      rintro rfl
      obtain ⟨d, more, token', known⟩ := ArcKind.equals_token first
      obtain ⟨-, rfl⟩ := List.cons.inj (token.symm.trans token')
      exact known.imp (congrArg some) (congrArg some)
  | box source _ gap kind => exact keyword source gap kind
  | inline source _ gap kind => exact keyword source gap kind

/-- An arc has the arcs inside it, and an inline expression ends with its brace. -/
theorem ArcItem.spans
    (blocks : ∀ {s rows r}, Block s rows r →
      ∃ c t, Through '\x7b' s c t ((Arc.allOfRows rows).map .arc) ∧ Gap t r)
    {a : Arc String String} (item : ArcItem Block before s a r) :
    ∃ d, Spans s d r (a.inside.map .arc) ∧ (a.isInline = true → d = '\x7d') := by
  have single (within : Within s r) : ∃ d, Spans s d r [] := by
    obtain ⟨d, -, spans⟩ := within
    exact ⟨d, spans⟩
  cases item with
  | @empty _ _ kind _ stands =>
    have inner : kind.token.toList.all isInner = true := by cases kind <;> decide
    have nonempty : kind.token.toList ≠ [] := by cases kind <;> decide
    obtain ⟨d, spans⟩ :=
      single ((within_of_chars nonempty (List.all_eq_true.1 inner)).attributes stands)
    exact ⟨d, spans, nofun⟩
  | message source gap operator gap' target stands =>
    obtain ⟨d, spans⟩ := single
      (((source.within.trans gap operator.within).trans gap' target.within).attributes stands)
    exact ⟨d, spans, nofun⟩
  | box source _ gap kind gap' target stands =>
    obtain ⟨d, spans⟩ := single
      (((source.within.trans gap kind.within).trans gap' target.within).attributes stands)
    exact ⟨d, spans, nofun⟩
  | inline source _ gap kind gap' target stands opened block closed =>
    obtain ⟨c, noMark, heading⟩ :=
      ((source.within.trans gap kind.within).trans gap' target.within).attributes stands
    obtain ⟨comments, layout⟩ := opened
    obtain ⟨d, t, inside, gap⟩ := blocks block
    have brace := (spans_of_char (c := '\x7b') (by decide) (by decide) _).behind layout
      (not_leads_of_before noMark)
    have closing := through_closing (gap.trans closed) (by decide) d
    have whole := ((heading.through brace).through inside).through closing
    exact ⟨'\x7d', by simpa [Arc.inside] using whole, fun _ => rfl⟩

end

/-! ## Lists of entities and arcs -/

section

variable {α : Type} {Item : List String → List Char → α → List Char → Prop} {self : α → Owner}
  {inside : α → List Owner} {Closes : List Char → Prop} {Last : α → Char → Prop}

/-- The comments before the first item are what is kept of a run, and so are those behind
a comma. -/
theorem ListOf.through {before : List String} {s r : List Char} {as : List α}
    (list : ListOf Item before s as r) (comma : ∀ t u, Gap t (',' :: u) → Closes t)
    (each : ∀ before s a r, Item before s a r → Closes r → Opens s ∧ (self a).StandsAt s ∧
      (self a).comments = before ∧ ∃ d, Spans s d r (inside a) ∧ Last a d)
    (closes : Closes r) {c : Char} {s' : List Char} {comments : List String} (mark : c ∈ marks)
    (own : before = kept c comments) (layout : Layout s' comments s) :
    ∃ d, Through c s' d r (as.flatMap fun a => self a :: inside a) ∧
      ∀ a ∈ as.getLast?, Last a d := by
  induction list generalizing c s' comments with
  | one item =>
    obtain ⟨opens, stands, same, d, spans, last⟩ := each _ _ _ _ item closes
    refine ⟨d, ?_, ?_⟩
    · simpa using spans.owned layout ⟨mark, opens⟩ stands (same.trans own)
    · rintro a ⟨⟩
      exact last
  | @more _ comments' _ _ _ _ _ a as item gap layout' rest step =>
    obtain ⟨opens, stands, same, b, spans, -⟩ := each _ _ _ _ item (comma _ _ gap)
    obtain ⟨d, through, last⟩ := step closes (c := ',') (by decide) rfl layout'
    have first := spans.owned layout ⟨mark, opens⟩ stands (same.trans own)
    refine ⟨d, ?_, ?_⟩
    · simpa using (first.trans (through_closing gap (by decide) b)).trans through
    · cases rest with
      | one => exact last
      | more => simpa using last

end

/-! ## Between the braces -/

/-- Behind the brace of a chart, before its entities or before its rows: a place where comments are
those of what comes next. -/
def Awaits (c : Char) (comments : List String) (s t : List Char) : Prop :=
  (c = '\x7b' ∨ c = ';') ∧ Layout s comments t

theorem Awaits.mark {c : Char} {comments : List String} {s t : List Char}
    (awaits : Awaits c comments s t) : c ∈ marks := by
  rcases awaits.1 with rfl | rfl <;> decide

theorem Awaits.kept {c : Char} {comments : List String} {s t : List Char}
    (awaits : Awaits c comments s t) : comments = kept c comments := by
  rcases awaits.1 with rfl | rfl <;> rfl

theorem OptionsPart.through {before next : List String} {s t r : List Char}
    {options : Options String Bool String} (part : OptionsPart before t options next r) {c : Char}
    (awaits : Awaits c before s t) : ∃ d u, Through c s d u [] ∧ Awaits d next u r := by
  cases part with
  | absent => exact ⟨c, s, Through.refl c s, awaits⟩
  | present list closed layout =>
    obtain ⟨⟨b, -, spans⟩, sets⟩ := list_within OptionItem.within list
    have options := spans.behind (c := c) awaits.2 (not_leads_of_sets sets)
    exact ⟨';', _, options.trans (through_closing closed (by decide) b), .inr rfl, layout⟩

/-- A comma or a semicolon follows. -/
def Separates (s : List Char) : Prop := ∃ c r, Gap s (c :: r) ∧ (c = ',' ∨ c = ';')

theorem EntityItem.placed {before : List String} {s r : List Char} {e : Entity String String}
    (item : EntityItem before s e r) (separates : Separates r) :
    Opens s ∧ (Owner.entity e).StandsAt s ∧ (Owner.entity e).comments = before ∧
      ∃ d, Spans s d r [] ∧ True := by
  obtain ⟨c, u, gap, known⟩ := separates
  have opens := item.opens gap known
  obtain ⟨d, -, spans⟩ := item.within
  cases item with
  | mk named stands => exact ⟨opens, ⟨r, .mk named stands⟩, rfl, d, spans, trivial⟩

theorem EntitiesPart.through {before next : List String} {s t r : List Char}
    {entities : List (Entity String String)} (part : EntitiesPart before t entities next r)
    {c : Char} (awaits : Awaits c before s t) :
    ∃ d u, Through c s d u (entities.map .entity) ∧ Awaits d next u r := by
  cases part with
  | absent => exact ⟨c, s, Through.refl c s, awaits⟩
  | present list closed layout =>
    obtain ⟨b, through, -⟩ := list.through (fun _ _ gap => ⟨_, _, gap, .inl rfl⟩)
      (fun _ _ _ _ item separates => EntityItem.placed item separates) ⟨_, _, closed, .inr rfl⟩
      awaits.mark awaits.kept awaits.2
    refine ⟨';', _, ?_, .inr rfl, layout⟩
    rw [List.map_eq_flatMap]
    simpa using through.trans (through_closing closed (by decide) b)

theorem ArcItem.placed {levels : Nat}
    (blocks : ∀ {s rows r}, Block levels s rows r →
      ∃ c t, Through '\x7b' s c t ((Arc.allOfRows rows).map .arc) ∧ Gap t r)
    {before : List String} {s r : List Char} {a : Arc String String}
    (item : ArcItem (Block levels) before s a r) :
    Opens s ∧ (Owner.arc a).StandsAt s ∧ (Owner.arc a).comments = before ∧
      ∃ d, Spans s d r (a.inside.map .arc) ∧ (a.isInline = true → d = '\x7d') := by
  have own : a.comments = before := by cases item <;> rfl
  exact ⟨item.opens, ⟨levels, r, own.symm ▸ item⟩, own, item.spans blocks⟩

theorem map_allOfRow (row : List (Arc String String)) : (Arc.allOfRow row).map Owner.arc =
    row.flatMap fun a => .arc a :: a.inside.map .arc := by
  induction row with
  | nil => rfl
  | cons a rest step => simp [Arc.allOfRow, step]

theorem RowList.through {levels : Nat}
    (blocks : ∀ {s rows r}, Block levels s rows r →
      ∃ c t, Through '\x7b' s c t ((Arc.allOfRows rows).map .arc) ∧ Gap t r)
    {before : List String} {s r : List Char} {rows : Rows String String}
    (list : RowList (Block levels) before s rows r) {c : Char} {s' : List Char}
    {comments : List String} (mark : c ∈ marks) (own : before = kept c comments)
    (layout : Layout s' comments s) :
    ∃ d t, Through c s' d t ((Arc.allOfRows rows).map .arc) ∧ Gap t r := by
  have row {before : List String} {s r : List Char} {row : List (Arc String String)}
      (list : ListOf (ArcItem (Block levels)) before s row r) {c : Char} {s' : List Char}
      {comments : List String} (mark : c ∈ marks) (own : before = kept c comments)
      (layout : Layout s' comments s) :
      ∃ d, Through c s' d r ((Arc.allOfRow row).map .arc) ∧
        ∀ a ∈ row.getLast?, a.isInline = true → d = '\x7d' := by
    rw [map_allOfRow]
    exact list.through (fun _ _ _ => trivial) (fun _ _ _ _ item (_ : True) => item.placed blocks)
      trivial mark own layout
  induction list generalizing c s' comments with
  | nil => exact ⟨c, s', Through.refl c s', layout.gap⟩
  | closed first gap layout' _ step =>
    obtain ⟨b, through, -⟩ := row first mark own layout
    obtain ⟨d, t, rest, gap'⟩ := step (c := ';') (by decide) rfl layout'
    refine ⟨d, t, ?_, gap'⟩
    simpa [Arc.allOfRows] using (through.trans (through_closing gap (by decide) b)).trans rest
  | unclosed first inline gap _ step =>
    obtain ⟨b, through, last⟩ := row first mark own layout
    obtain ⟨a, isLast, isInline⟩ := inline
    obtain rfl := last a isLast isInline
    obtain ⟨comments', layout'⟩ := gap
    obtain ⟨d, t, rest, gap'⟩ := step (c := '\x7d') (by decide) rfl layout'
    refine ⟨d, t, ?_, gap'⟩
    simpa [Arc.allOfRows] using through.trans rest

theorem Block.through {levels : Nat} {s r : List Char} {rows : Rows String String}
    (block : Block levels s rows r) :
    ∃ c t, Through '\x7b' s c t ((Arc.allOfRows rows).map .arc) ∧ Gap t r := by
  induction levels generalizing s rows r with
  | zero => cases block
  | succ levels step =>
    obtain ⟨comments, t, layout, list⟩ := block
    exact list.through step (by decide) rfl layout

/-! ## Charts -/

/-- The runs of a program place the comments of its chart. -/
theorem Program.places {levels : Nat} {source : List Char} {chart : Chart}
    (program : Program levels source chart) :
    ∃ runs, Runs source chart.comments runs ∧ Places runs chart.owners := by
  obtain ⟨layout, keyword, opened, inside, ⟨options, entities, rows⟩, closed, gap⟩ := program
  obtain ⟨b, noMark, word⟩ := keyword.within
  obtain ⟨comments, layout'⟩ := opened
  have brace := (spans_of_char (c := '\x7b') (by decide) (by decide) _).behind layout'
    (not_leads_of_before noMark)
  obtain ⟨c, t, optionsThrough, awaits⟩ := options.through ⟨.inl rfl, inside⟩
  obtain ⟨d, u, entitiesThrough, awaits⟩ := entities.through awaits
  obtain ⟨e, v, rowsThrough, gap'⟩ :=
    rows.through Block.through awaits.mark awaits.kept awaits.2
  have closing := through_closing (gap'.trans closed) (by decide) e
  obtain ⟨f, w, solid, token, runs, passes, places⟩ := word.through
    (brace.trans (optionsThrough.trans (entitiesThrough.trans (rowsThrough.trans closing))))
  obtain ⟨last, ends⟩ := gap
  refine ⟨_, .mk layout solid token passes ends, ?_⟩
  have lost : Places [⟨'\x7d', last, []⟩] [] := .lost not_leads_of_end .nil
  simpa [Chart.owners] using places.append lost

end SeqChart.Grammar
