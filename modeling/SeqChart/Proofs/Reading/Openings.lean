import SeqChart.Proofs.Chart.Settings
import SeqChart.Proofs.Reading.Chart
/-!
What charts open with. Of statements, arcs look like an option whose operator starts with an equals
sign (`ArcItem.assigns_iff`), and lists of entities never do (`not_assigns_of_entities`). Main
statement, `Body.assigns_of_opening`: a text that starts with the same character and the same arc as
another one looks like an option only if that does.
-/

namespace SeqChart

open Grammar

/-- A message with an operator that starts with an equals sign. -/
def Arc.HasEquals : Arc String String → Prop
  | .message kind _ _ _ _ => kind.token.toList.head? = some '='
  | _ => False

/-- The arc that rows start with. -/
def opening? (rows : Rows String String) : Option (Arc String String) := rows.head?.bind List.head?

/-- A word could start here. -/
def Grammar.StartsWord (s : List Char) : Prop := ∃ c ∈ s.head?, Text.isWord c = true

namespace Grammar

variable {Block : List Char → Rows String String → List Char → Prop}

theorem Word.startsWord {s w r : List Char} (word : Word s w r) : StartsWord s := by
  obtain ⟨c, rest, rfl, letter⟩ := word.head
  exact ⟨c, rfl, letter⟩

/-- A word that starts with a letter is no name in quotes. -/
theorem Name.word {s r : List Char} {n : String} (named : Name s n r) (starts : StartsWord s) :
    ∃ w, Word s w r := by
  cases named with
  | bare word _ => exact ⟨_, word⟩
  | quoted quoted _ =>
    obtain ⟨inside, rfl, -⟩ := quoted
    obtain ⟨c, ⟨⟩, letter⟩ := starts
    exact absurd letter (by decide)

theorem Operator.head_equals {s r : List Char} {kind : ArcKind}
    (operator : Operator ('=' :: s) kind r) : kind.token.toList.head? = some '=' := by
  have text := operator.text
  cases kind <;> first | rfl | cases text

theorem not_equals_of_keyword {token : String} {s t u r : List Char} (gap : Gap t s)
    (keyword : Keyword token s r) (equals : Gap t ('=' :: u)) : False := by
  obtain rfl := Reader.Gap.unique gap keyword.solid equals (Reader.solid_equals u)
  obtain ⟨w, word, -⟩ := keyword
  exact not_word_cons (by decide) word

/-- A message from a bare name with an operator that starts with an equals sign looks like an
option. -/
theorem assigns_of_operator {s t u v : List Char} {source : String} {kind : ArcKind}
    (started : End s source t) (gap : Gap t u) (operator : Operator u kind v)
    (equals : kind.token.toList.head? = some '=') (starts : StartsWord s) : Assigns s := by
  cases started with
  | all =>
    obtain ⟨c, ⟨⟩, letter⟩ := starts
    exact absurd letter (by decide)
  | name named =>
    obtain ⟨w, word⟩ := named.word starts
    obtain ⟨c, rest, token, -⟩ := ArcKind.equals_token equals
    rw [operator.text, token] at gap
    exact ⟨w, _, _, word, gap⟩

theorem ArcItem.assigns_iff {before : List String} {s r : List Char} {a : Arc String String}
    (item : ArcItem Block before s a r) : Assigns s ↔ StartsWord s ∧ a.HasEquals := by
  constructor
  · rintro ⟨w, t, u, word, equals⟩
    refine ⟨word.startsWord, ?_⟩
    cases item with
    | @empty _ _ kind _ _ => cases kind <;> exact absurd word (not_word_cons rfl)
    | message ended gap operator =>
      cases ended with
      | all => exact absurd word (not_word_cons rfl)
      | name named =>
        obtain rfl := named.of_word word
        obtain rfl := Reader.Gap.unique gap operator.solid equals (Reader.solid_equals u)
        exact operator.head_equals
    | box named _ gap keyword =>
      obtain rfl := named.of_word word
      exact (not_equals_of_keyword gap keyword equals).elim
    | inline named _ gap keyword =>
      obtain rfl := named.of_word word
      exact (not_equals_of_keyword gap keyword equals).elim
  · rintro ⟨starts, equals⟩
    cases item with
    | message ended gap operator => exact assigns_of_operator ended gap operator equals starts
    | _ => exact equals.elim

/-- Behind the first name of a list of entities stands no equals sign. -/
theorem not_assigns_of_entities {before : List String} {s t u : List Char}
    {entities : List (Entity String String)} (list : ListOf EntityItem before s entities t)
    (closed : Gap t (';' :: u)) : ¬ Assigns s := by
  rintro ⟨w, v, x, word, equals⟩
  obtain ⟨n, v', c, y, named, gap, known⟩ := Reader.behind_first_entity list closed
  obtain rfl := named.of_word word
  obtain ⟨plain, other⟩ := Reader.plain_behind_entity known
  obtain ⟨rfl, -⟩ :=
    List.cons.inj (Reader.Gap.unique gap (solid_cons plain) equals (Reader.solid_equals x))
  exact other rfl

theorem EntitiesPart.not_assigns_of_ne_nil {before after : List String} {s t : List Char}
    {entities : List (Entity String String)} (part : EntitiesPart before s entities after t)
    (some : entities ≠ []) : ¬ Assigns s := by
  cases part with
  | absent => exact absurd rfl some
  | present list closed _ => exact not_assigns_of_entities list closed

theorem EntitiesPart.solid {before after : List String} {s t : List Char}
    {entities : List (Entity String String)} (part : EntitiesPart before s entities after t)
    (solid : Solid t) : Solid s := by
  cases part with
  | absent => exact solid
  | present list _ _ => exact list.solid Reader.entity_recognises.solid

theorem OptionsPart.solid {before next : List String} {s t : List Char}
    {options : Options String Bool String} (part : OptionsPart before s options next t)
    (solid : Solid t) : Solid s := by
  cases part with
  | absent => exact solid
  | present list _ _ => exact list.solid Reader.setting_recognises.solid

theorem EntitiesPart.eq_of_nil {before after : List String} {s t : List Char}
    (part : EntitiesPart before s [] after t) : s = t := by
  cases part with
  | absent => rfl
  | present list _ _ => cases list

theorem OptionsPart.eq_of_unset {before next : List String} {s t : List Char}
    (part : OptionsPart before s {} next t) : s = t := by
  generalize unset : ({} : Options String Bool String) = options at part
  cases part with
  | absent => rfl
  | present list _ _ =>
    obtain rfl := (Options.foldl_set_eq unset.symm).2
    cases list

theorem RowList.opening {before : List String} {s r : List Char} {rows : Rows String String}
    (list : RowList Block before s rows r) {a : Arc String String}
    (first : opening? rows = some a) :
    ∃ t, ArcItem Block before s a t := by
  have arcs {row : List (Arc String String)} {t : List Char}
      (listed : ListOf (ArcItem Block) before s row t) (first : row.head? = some a) :
      ∃ t, ArcItem Block before s a t := by
    cases listed with
    | one item => cases first; exact ⟨_, item⟩
    | more item _ _ _ => cases first; exact ⟨_, item⟩
  cases list with
  | nil => cases first
  | closed listed => exact arcs listed first
  | unclosed listed => exact arcs listed first

theorem not_hasEquals_of_isInline {a : Arc String String} (inline : a.isInline = true) :
    ¬ a.HasEquals := by
  cases a with
  | message => cases inline
  | _ => exact id

/-- A text that starts with the same character and the same arc, or with an inline expression, looks
like an option only if the other one does. -/
theorem RowList.assigns_of_opening {Block' : List Char → Rows String String → List Char → Prop}
    {before before' : List String} {s s' r r' : List Char} {rows rows' : Rows String String}
    {a : Arc String String} (list : RowList Block before s rows r)
    (list' : RowList Block' before' s' rows' r') (head : s'.head? = s.head?)
    (first : opening? rows' = some a) (first' : opening? rows = some a ∨ a.isInline = true)
    (assigns : Assigns s') : Assigns s := by
  obtain ⟨t, item⟩ := list'.opening first
  obtain ⟨starts, equals⟩ := item.assigns_iff.1 assigns
  rcases first' with first' | inline
  · obtain ⟨t', item'⟩ := list.opening first'
    have starts' : StartsWord s := by rwa [StartsWord, ← head]
    exact item'.assigns_iff.2 ⟨starts', equals⟩
  · exact absurd equals (not_hasEquals_of_isInline inline)

theorem RowList.exists_opening {before : List String} {s r : List Char}
    {row : List (Arc String String)} {rows : Rows String String}
    (list : RowList Block before s (row :: rows) r) : ∃ a, opening? (row :: rows) = some a := by
  have arcs {t : List Char} (listed : ListOf (ArcItem Block) before s row t) :
      ∃ a, opening? (row :: rows) = some a := by
    cases listed <;> exact ⟨_, rfl⟩
  cases list with
  | closed listed => exact arcs listed
  | unclosed listed => exact arcs listed

/-- What is between the braces of a chart starts with a token, unless it is nothing. -/
theorem Body.solid_or_eq {levels : Nat} {before : List String} {s r : List Char}
    {content : Content String String (Options String Bool String)}
    (body : Body levels before s content r) : Solid s ∨ s = r := by
  obtain ⟨options, entities, list⟩ := body
  cases options with
  | present listed _ _ => exact .inl (listed.solid Reader.setting_recognises.solid)
  | absent =>
    cases entities with
    | present listed _ _ => exact .inl (listed.solid Reader.entity_recognises.solid)
    | absent =>
      cases list with
      | nil => exact .inr rfl
      | closed listed => exact .inl (listed.solid ArcItem.solid)
      | unclosed listed => exact .inl (listed.solid ArcItem.solid)

/-- A chart opens with what looks like an option if what is between its braces does. -/
theorem opens_iff {levels : Nat} {source s t u v w r : List Char} {head before : List String}
    {content : Content String String (Options String Bool String)} (layout : Layout source head s)
    (keyword : Keyword "msc" s t) (opened : Gap t ('\x7b' :: u)) (inside : Layout u before v)
    (body : Body levels before v content w) (closed : Gap w ('\x7d' :: r)) :
    OpensWithAssignment source ↔ Assigns v := by
  refine ⟨fun opens => ?_,
    fun assigns => ⟨_, _, _, _, _, _, layout, keyword, opened, inside, assigns⟩⟩
  rcases body.solid_or_eq with solid | rfl
  · exact Reader.assigns_of_opens opens layout keyword opened inside solid
  · -- Between the braces there is only layout, and no word stands behind it.
    obtain ⟨texts, closed⟩ := closed
    have assigns := Reader.assigns_of_opens opens layout keyword opened (inside.append closed)
      (solid_cons rfl)
    obtain ⟨_, _, _, word, -⟩ := assigns
    exact absurd word (not_word_cons rfl)

theorem Body.assigns_of_opening {levels levels' : Nat} {before before' : List String}
    {s s' r r' t : List Char}
    {content content' : Content String String (Options String Bool String)}
    (body : Body levels before s content r) (body' : Body levels' before' s' content' r')
    (closed : Gap r' ('\x7d' :: t)) (unset : content.options = {}) (unset' : content'.options = {})
    (entities : content'.entities = content.entities)
    (opening : ∀ a, opening? content'.rows = some a →
      opening? content.rows = some a ∨ a.isInline = true)
    (head : s'.head? = s.head?) (assigns : Assigns s') : Assigns s := by
  cases body with | @mk _ _ _ _ _ _ _ _ _ options part list =>
  cases body' with | @mk _ _ _ _ _ _ _ es rows' options' part' list' =>
  dsimp only at unset unset' entities opening
  subst unset unset' entities
  obtain rfl := options.eq_of_unset
  obtain rfl := options'.eq_of_unset
  by_cases none : es = []
  · subst none
    obtain rfl := part.eq_of_nil
    obtain rfl := part'.eq_of_nil
    cases rows' with
    | nil =>
      -- No rows are left, and no word stands where the closing brace does.
      cases list'
      obtain ⟨w, u, v, word, -⟩ := assigns
      obtain rfl := Reader.Gap.unique (Gap.refl _) word.solid closed (solid_cons rfl)
      exact absurd word (not_word_cons rfl)
    | cons row rows' =>
      obtain ⟨a, first⟩ := list'.exists_opening
      exact list.assigns_of_opening list' head first (opening a first) assigns
  · exact absurd assigns (part'.not_assigns_of_ne_nil none)

end Grammar

end SeqChart
