import SeqChart.Proofs.Grammar.Exchange
import SeqChart.Proofs.Reading.Arc
/-!
Inline expressions for which no level is left. A text may have one without being refused for it: its
name and its attributes are read before its level is looked at, and may be wrong as well.
-/

namespace SeqChart.Grammar

variable {Block : List Char → Rows String String → List Char → Prop}

/-- The rows that start here lead to an inline expression with one level too many above it. What is
left is behind its keyword. -/
inductive TooDeep : Nat → List Char → List Char → Prop
  | here {s r : List Char} {kind : InlineKind} {source : String} :
      InlineStart s kind source r → TooDeep 0 s r
  | inside {levels : Nat} {s u v r : List Char} {kind : InlineKind} {source target : String}
      {attrs : Mapping String String} :
      InlineHead s kind source target attrs u → Gap u v → TooDeep levels v r →
      TooDeep (levels + 1) s r
  | next {levels : Nat} {before : List String} {s t u v r : List Char} {a : Arc String String}
      {c : Char} :
      ArcItem (Grammar.Block levels) before s a t → c = ',' ∨ c = ';' → Gap t (c :: u) →
      Gap u v → TooDeep levels v r → TooDeep levels s r
  | unclosed {levels : Nat} {before : List String} {s t v r : List Char} {a : Arc String String} :
      ArcItem (Grammar.Block levels) before s a t → a.isInline = true → Gap t v →
      TooDeep levels v r → TooDeep levels s r

/-- What is too deep behind the last arc of a list is so behind the list. -/
theorem TooDeep.behind_list {levels : Nat} {before : List String} {s t r : List Char}
    {row : List (Arc String String)} (list : ListOf (ArcItem (Grammar.Block levels)) before s row t)
    (last : ∀ {before s a}, a ∈ row.getLast? → ArcItem (Grammar.Block levels) before s a t →
      TooDeep levels s r) : TooDeep levels s r := by
  induction list with
  | one item => exact last rfl item
  | more item gap layout _ step =>
    refine .next item (.inl rfl) gap layout.gap (step fun {before s a} member item' => ?_)
    refine last ?_ item'
    rw [List.getLast?_cons, Option.mem_def.1 member]
    rfl

theorem TooDeep.behind_row {levels : Nat} {before comments : List String} {s t r : List Char}
    {row : List (Arc String String)}
    (ahead : RowAhead (Grammar.Block levels) before s row comments t)
    (deep : TooDeep levels t r) : TooDeep levels s r := by
  cases ahead with
  | closed list closed layout =>
    exact .behind_list list fun _ item => .next item (.inr rfl) closed layout.gap deep
  | unclosed list last gap =>
    obtain ⟨a, member, inline⟩ := last
    refine .behind_list list fun member' item => .unclosed item ?_ gap deep
    rwa [← Option.some.inj (member.symm.trans member')]

/-- A chart leads to an inline expression that is too deep for it. -/
inductive Overflows (levels : Nat) : List Char → List Char → Prop
  | mk {head before between after : List String} {source s t u v w x r : List Char}
      {options : Options String Bool String} {entities : List (Entity String String)} :
      Layout source head s → Keyword "msc" s t → Gap t ('\x7b' :: u) → Layout u before v →
      OptionsPart before v options between w → (options = {} → ¬ Assigns v) →
      EntitiesPart between w entities after x → TooDeep levels x r → Overflows levels source r

end SeqChart.Grammar
