import SeqChart.Proofs.Reading.Layout
import SeqChart.Proofs.Text.Classes
import SeqChart.Reader.Arc
/-!
Reading words, strings, values, names and operators. Each reader takes exactly what the rule of that
name in `Grammar.Lexis` describes: `name_eq_ok_iff`, `endpoint_eq_ok_iff`, `value_eq_ok_iff`,
`acceptAny_operator_iff`, `keyword?_eq_some_iff`.
-/

namespace SeqChart

open Grammar

variable {α : Type}

/-! ## Words -/

namespace Grammar

theorem takeWhile_of_stops {p : Char → Bool} {w r : List Char} (inside : ∀ c ∈ w, p c = true)
    (stops : ∀ c ∈ r.head?, p c = false) : (w ++ r).takeWhile p = w := by
  rw [List.takeWhile_append_of_pos inside]
  cases r with
  | nil => simp
  | cons c r => simp [stops c rfl]

theorem dropWhile_of_stops {p : Char → Bool} {w r : List Char} (inside : ∀ c ∈ w, p c = true)
    (stops : ∀ c ∈ r.head?, p c = false) : (w ++ r).dropWhile p = r := by
  rw [List.dropWhile_append_of_pos inside]
  cases r with
  | nil => rfl
  | cons c r => rw [List.dropWhile_cons, if_neg (by simp [stops c rfl])]

theorem stops_dropWhile (p : Char → Bool) (s : List Char) :
    ∀ c ∈ (s.dropWhile p).head?, p c = false := by
  intro c member
  have stops := List.head?_dropWhile_not p s
  rw [Option.mem_def.1 member] at stops
  exact stops

theorem isPlain_of_isWord {c : Char} (word : Text.isWord c = true) : isPlain c = true := by
  have notHash : c ≠ '#' := by
    rintro rfl
    exact absurd word (by decide)
  have notSlash : c ≠ '/' := by
    rintro rfl
    exact absurd word (by decide)
  simp [isPlain, Text.isBlank_of_isWord word, notHash, notSlash]

namespace Word

variable {s w r : List Char}

theorem takeWhile (word : Word s w r) : s.takeWhile Text.isWord = w := by
  rw [word.text]
  exact takeWhile_of_stops word.letters word.whole

theorem dropWhile (word : Word s w r) : s.dropWhile Text.isWord = r := by
  rw [word.text]
  exact dropWhile_of_stops word.letters word.whole

theorem head (word : Word s w r) : ∃ c rest, s = c :: rest ∧ Text.isWord c = true := by
  obtain ⟨rfl, nonempty, letters, -⟩ := word
  cases w with
  | nil => exact absurd rfl nonempty
  | cons c w => exact ⟨c, w ++ r, rfl, letters c (by simp)⟩

theorem solid (word : Word s w r) : Solid s := by
  obtain ⟨c, rest, rfl, letter⟩ := word.head
  exact solid_cons (isPlain_of_isWord letter)

theorem unique {w' r' : List Char} (word : Word s w r) (word' : Word s w' r') : w = w' ∧ r = r' :=
  ⟨word.takeWhile.symm.trans word'.takeWhile, word.dropWhile.symm.trans word'.dropWhile⟩

end Word

/-- Where a letter stands, a word stands. -/
theorem word_of_takeWhile {s : List Char} (nonempty : s.takeWhile Text.isWord ≠ []) :
    Word s (s.takeWhile Text.isWord) (s.dropWhile Text.isWord) where
  text := List.takeWhile_append_dropWhile.symm
  nonempty := nonempty
  letters := fun _ member => List.mem_takeWhile_imp member
  whole := stops_dropWhile Text.isWord s

theorem word_append {w r : List Char} (known : w ≠ [] ∧ w.all Text.isWord = true)
    (ends : EndsWord r) : Word (w ++ r) w r :=
  ⟨rfl, known.1, List.all_eq_true.1 known.2, ends⟩

theorem not_word_cons {c : Char} {s w r : List Char} (other : Text.isWord c = false) :
    ¬ Word (c :: s) w r := by
  intro word
  obtain ⟨d, rest, same, letter⟩ := word.head
  rw [(List.cons.inj same).1, letter] at other
  cases other

theorem Keyword.solid {token : String} {s r : List Char} (keyword : Keyword token s r) :
    Solid s := by
  obtain ⟨word, whole, -⟩ := keyword
  exact whole.solid

theorem Keyword.unique {token : String} {s r r' : List Char} (keyword : Keyword token s r)
    (keyword' : Keyword token s r') : r = r' := by
  obtain ⟨word, whole, -⟩ := keyword
  obtain ⟨word', whole', -⟩ := keyword'
  exact (whole.unique whole').2

end Grammar

namespace Reader

theorem word_of_nonempty {s w r : List Char} (read : word s = .ok (w, r)) (nonempty : w ≠ []) :
    Word s w r := by
  obtain ⟨rfl, rfl⟩ := Prod.mk.inj (Except.ok.inj read)
  exact word_of_takeWhile nonempty

theorem word_of_word {s w r : List Char} (whole : Word s w r) : word s = .ok (w, r) := by
  rw [word, whole.takeWhile, whole.dropWhile]

/-! ## Keywords -/

theorem keyword_of_keyword? {token : α → String} {choices : List α}
    (named : ∀ a ∈ choices, token a ≠ "") {s r : List Char} {a : α}
    (read : keyword? token choices s = .ok (some a, r)) : a ∈ choices ∧ Keyword (token a) s r := by
  unfold keyword? at read
  dsimp only at read
  split at read
  · rename_i b found
    obtain ⟨same, rfl⟩ := Prod.mk.inj (Except.ok.inj read)
    cases same
    have member := List.mem_of_find?_eq_some found
    have lowered : token a = Text.lowerText (String.ofList (s.takeWhile Text.isWord)) := by
      simpa using List.find?_some found
    refine ⟨member, s.takeWhile Text.isWord, word_of_takeWhile ?_, lowered.symm⟩
    intro nothing
    rw [nothing] at lowered
    exact named a member lowered
  · cases read

theorem keyword?_of_keyword {token : α → String} {choices : List α} {s r : List Char} {a : α}
    (apart : ∀ b ∈ choices, token b = token a → b = a) (member : a ∈ choices)
    (keyword : Keyword (token a) s r) : keyword? token choices s = .ok (some a, r) := by
  obtain ⟨word, whole, lowered⟩ := keyword
  have found : choices.find? (token · == token a) = some a := by
    cases outcome : choices.find? (token · == token a) with
    | none => exact absurd (List.find?_eq_none.1 outcome a member) (by simp)
    | some b =>
      have same : token b = token a := by simpa using List.find?_some outcome
      rw [apart b (List.mem_of_find?_eq_some outcome) same]
  unfold keyword?
  dsimp only
  rw [whole.takeWhile, whole.dropWhile, lowered, found]

/-! ## Quoted strings -/

theorem closeQuote?_eq_some_iff {s v r : List Char} :
    closeQuote? s = some (v, r) ↔ QuotedRest s v r := by
  constructor
  · intro closed
    fun_induction closeQuote? s generalizing v r with
    | case1 => cases closed
    | case2 s =>
      obtain ⟨rfl, rfl⟩ := Prod.mk.inj (Option.some.inj closed)
      exact .close
    | case3 c s step =>
      obtain ⟨⟨v', r'⟩, closed', same⟩ := Option.map_eq_some_iff.1 closed
      obtain ⟨rfl, rfl⟩ := Prod.mk.inj same
      split
      · rename_i isQuote
        exact isQuote ▸ .quote (step closed')
      · rename_i notQuote
        exact .pair notQuote (step closed')
    | case4 c s notQuote notPair step =>
      obtain ⟨⟨v', r'⟩, closed', same⟩ := Option.map_eq_some_iff.1 closed
      obtain ⟨rfl, rfl⟩ := Prod.mk.inj same
      refine .plain (fun isQuote => notQuote isQuote) (fun isBackslash => ?_) (step closed')
      -- A backslash at the very end is no pair, but then no quote closes the string.
      cases s with
      | nil => cases closed'
      | cons d s => exact notPair d s isBackslash rfl
  · intro rest
    induction rest with
    | close => rw [closeQuote?]
    | quote _ step => rw [closeQuote?, step]; rfl
    | pair notQuote _ step =>
      rw [closeQuote?, step, Option.map_some]
      dsimp only
      rw [if_neg notQuote]
    | plain notQuote notBackslash _ step =>
      rw [closeQuote?]
      · rw [step]
        rfl
      · exact notQuote
      · exact fun d s isBackslash => absurd isBackslash notBackslash

theorem quoted?_of_quoted {s v r : List Char} (quoted : Quoted s v r) :
    quoted? s = .ok (some (String.ofList v), r) := by
  obtain ⟨inside, rfl, rest⟩ := quoted
  rw [quoted?, closeQuote?_eq_some_iff.2 rest]

theorem quoted_of_quoted? {s r : List Char} {text : String}
    (read : quoted? s = .ok (some text, r)) :
    ∃ v, text = String.ofList v ∧ Quoted s v r := by
  unfold quoted? at read
  split at read
  · rename_i inside
    split at read
    · rename_i v rest closed
      obtain ⟨same, rfl⟩ := Prod.mk.inj (Except.ok.inj read)
      obtain rfl := Option.some.inj same
      exact ⟨v, rfl, inside, rfl, closeQuote?_eq_some_iff.1 closed⟩
    · cases read
  · cases read

theorem quoted?_of_head {s : List Char} (other : s.head? ≠ some '"') :
    quoted? s = .ok (none, s) := by
  unfold quoted?
  split
  · exact absurd rfl other
  · rfl

theorem head_of_quoted? {s r : List Char} (read : quoted? s = .ok (none, r)) :
    r = s ∧ s.head? ≠ some '"' := by
  refine ⟨quoted?_none read, ?_⟩
  unfold quoted? at read
  split at read
  · split at read <;> cases read
  · rename_i notQuote
    cases s with
    | nil => simp
    | cons c s =>
      intro isQuote
      exact notQuote s (by rw [Option.some.inj isQuote])

end Reader

namespace Grammar

theorem Quoted.solid {s v r : List Char} (quoted : Quoted s v r) : Solid s := by
  obtain ⟨inside, rfl, -⟩ := quoted
  exact solid_cons rfl

theorem Word.not_quote {s w r : List Char} (word : Word s w r) : s.head? ≠ some '"' := by
  obtain ⟨c, rest, rfl, letter⟩ := word.head
  intro isQuote
  obtain rfl := Option.some.inj isQuote
  exact absurd letter (by decide)

theorem Name.solid {s r : List Char} {n : String} (name : Name s n r) : Solid s := by
  cases name with
  | bare word _ => exact word.solid
  | quoted quoted _ => exact quoted.solid

end Grammar

/-! ## Names -/

namespace Reader

theorem ofList_isEmpty {w : List Char} : (String.ofList w).isEmpty = w.isEmpty := by
  rw [Bool.eq_iff_iff, String.isEmpty_iff, List.isEmpty_iff]
  constructor
  · intro same
    simpa using congrArg String.toList same
  · rintro rfl
    rfl

theorem name_eq_ok_iff {s r : List Char} {n : String} :
    name s = .ok (n, r) ↔ ∃ t, Gap s t ∧ Name t n r := by
  rw [name, bind_eq_ok_iff]
  constructor
  · rintro ⟨_, t, skipped, read⟩
    refine ⟨t, (skipLayout_eq_ok_iff.1 skipped).1, ?_⟩
    rw [get_bind, bind_eq_ok_iff] at read
    obtain ⟨text?, u, taken, read⟩ := read
    cases text? with
    | some text =>
      obtain ⟨v, rfl, quoted⟩ := quoted_of_quoted? taken
      dsimp only at read
      split at read
      · cases read
      · rename_i nonempty
        obtain ⟨rfl, rfl⟩ := pure_eq_ok_iff.1 read
        exact .quoted quoted (by simpa [ofList_isEmpty] using nonempty)
    | none =>
      obtain ⟨rfl, -⟩ := head_of_quoted? taken
      obtain ⟨w, v, taken, read⟩ := bind_eq_ok_iff.1 read
      split at read
      · cases read
      · rename_i nonempty
        split at read
        · cases read
        · rename_i free
          obtain ⟨rfl, rfl⟩ := pure_eq_ok_iff.1 read
          exact .bare (word_of_nonempty taken (by simpa [ofList_isEmpty] using nonempty))
            (by simpa using free)
  · rintro ⟨t, gap, named⟩
    refine ⟨(), t, skipLayout_of_gap gap named.solid, ?_⟩
    rw [get_bind]
    cases named with
    | quoted quoted nonempty =>
      rw [bind_of_ok (quoted?_of_quoted quoted)]
      dsimp only
      rw [if_neg (by simpa [ofList_isEmpty] using nonempty)]
      rfl
    | bare whole free =>
      rw [bind_of_ok (quoted?_of_head whole.not_quote)]
      dsimp only
      rw [bind_of_ok (word_of_word whole)]
      rw [if_neg (by simpa [ofList_isEmpty] using whole.nonempty), if_neg (by simpa using free)]
      rfl

theorem name_of_name {s r : List Char} {n : String} (named : Name s n r) : name s = .ok (n, r) :=
  name_eq_ok_iff.2 ⟨s, Gap.refl s, named⟩

end Reader

namespace Grammar

theorem Name.head {s r : List Char} {n : String} (named : Name s n r) :
    ∃ c rest, s = c :: rest ∧ (c = '"' ∨ Text.isWord c = true) := by
  cases named with
  | bare word _ =>
    obtain ⟨c, rest, rfl, letter⟩ := word.head
    exact ⟨c, rest, rfl, .inr letter⟩
  | quoted quoted _ =>
    obtain ⟨inside, rfl, -⟩ := quoted
    exact ⟨'"', inside, rfl, .inl rfl⟩

theorem Name.not_star {s r : List Char} {n : String} (named : Name s n r) : s.head? ≠ some '*' := by
  obtain ⟨c, rest, rfl, quote | letter⟩ := named.head
  · simp [quote]
  · intro star
    obtain rfl := Option.some.inj star
    exact absurd letter (by decide)

theorem End.solid {s r : List Char} {n : String} (ended : End s n r) : Solid s := by
  cases ended with
  | all => exact solid_cons rfl
  | name named => exact named.solid

end Grammar

namespace Reader

theorem endpoint_eq_ok_iff {s r : List Char} {n : String} :
    endpoint s = .ok (n, r) ↔ ∃ t, Gap s t ∧ End t n r := by
  rw [endpoint, bind_eq_ok_iff]
  constructor
  · rintro ⟨_, t, skipped, read⟩
    obtain ⟨gap, solid⟩ := skipLayout_eq_ok_iff.1 skipped
    refine ⟨t, gap, ?_⟩
    obtain ⟨found, u, accepted, finished⟩ := bind_eq_ok_iff.1 read
    cases found with
    | true =>
      obtain ⟨rfl, rfl⟩ := pure_eq_ok_iff.1 finished
      rw [accept_eq_true accepted]
      exact .all
    | false =>
      obtain ⟨rfl, -⟩ := accept_eq_false accepted
      obtain ⟨v, gap', named⟩ := name_eq_ok_iff.1 finished
      rw [Gap.unique gap' named.solid (Gap.refl u) solid] at named
      exact .name named
  · rintro ⟨t, gap, ended⟩
    refine ⟨(), t, skipLayout_of_gap gap ended.solid, ?_⟩
    cases ended with
    | all => rfl
    | name named =>
      have absent : accept broadcast.toList t = .ok (false, t) := accept_head named.not_star
      rw [bind_of_ok absent]
      exact name_of_name named

/-! ## Values -/

theorem isNumber_iff {v : List Char} : isNumber v = true ↔ Numeral v := by
  have splits : v.takeWhile Text.isDigit ++ v.dropWhile Text.isDigit = v :=
    List.takeWhile_append_dropWhile
  have digits : ∀ c ∈ v.takeWhile Text.isDigit, Text.isDigit c = true :=
    fun _ member => List.mem_takeWhile_imp member
  constructor
  · intro number
    unfold isNumber at number
    split at number
    · rename_i whole
      rw [whole, List.append_nil] at splits
      rw [splits] at digits
      exact .inr ⟨by simpa using number, digits⟩
    · rename_i places whole
      rw [whole] at splits
      simp only [Bool.and_eq_true, Bool.not_eq_true', List.isEmpty_eq_false_iff,
        List.all_eq_true] at number
      refine .inl ⟨_, places, splits.symm, number.1, fun c member => ?_⟩
      rcases List.mem_append.1 member with inWhole | inPlaces
      · exact digits c inWhole
      · exact number.2 c inPlaces
    · cases number
  · rintro (⟨whole, places, rfl, nonempty, digits⟩ | ⟨nonempty, digits⟩)
    · have rest : (whole ++ '.' :: places).dropWhile Text.isDigit = '.' :: places :=
        dropWhile_of_stops (fun c member => digits c (by simp [member])) (by
          rintro c ⟨⟩
          decide)
      unfold isNumber
      rw [rest]
      simpa [nonempty] using fun c member => digits c (by simp [member])
    · have rest : v.dropWhile Text.isDigit = [] := by
        simpa using dropWhile_of_stops (r := []) digits (by simp)
      unfold isNumber
      rw [rest]
      simpa using nonempty

end Reader

namespace Grammar

/-- The digits around the point of a fraction are all that stand there. -/
theorem fraction_iff {s v r : List Char} :
    Fraction s v r ↔ ∃ after, s.dropWhile Text.isDigit = '.' :: after ∧
      after.takeWhile Text.isDigit ≠ [] ∧ EndsWord (after.dropWhile Text.isDigit) ∧
      v = s.takeWhile Text.isDigit ++ '.' :: after.takeWhile Text.isDigit ∧
      r = after.dropWhile Text.isDigit := by
  constructor
  · rintro ⟨rfl, ⟨whole, places, rfl, nonempty, digits⟩, ends⟩
    have point : ∀ c ∈ ('.' :: places ++ r).head?, Text.isDigit c = false := by
      rintro c ⟨⟩
      decide
    have inWhole : ∀ c ∈ whole, Text.isDigit c = true := fun c member => digits c (by simp [member])
    have inPlaces : ∀ c ∈ places, Text.isDigit c = true :=
      fun c member => digits c (by simp [member])
    have stops : ∀ c ∈ r.head?, Text.isDigit c = false := by
      intro c member
      cases digit : Text.isDigit c with
      | false => rfl
      | true => exact absurd (ends c member) (by simp [Text.isWord_of_isDigit digit])
    rw [List.append_assoc, takeWhile_of_stops inWhole point, dropWhile_of_stops inWhole point]
    refine ⟨places ++ r, rfl, ?_, ?_, ?_, ?_⟩
    · rwa [takeWhile_of_stops inPlaces stops]
    · rwa [dropWhile_of_stops inPlaces stops]
    · rw [takeWhile_of_stops inPlaces stops]
    · rw [dropWhile_of_stops inPlaces stops]
  · rintro ⟨after, point, nonempty, ends, rfl, rfl⟩
    refine ⟨?_, ⟨_, _, rfl, nonempty, ?_⟩, ends⟩
    · rw [List.append_assoc, List.cons_append, List.takeWhile_append_dropWhile, ← point,
        List.takeWhile_append_dropWhile]
    · intro c member
      rcases List.mem_append.1 member with inWhole | inPlaces
      · exact List.mem_takeWhile_imp inWhole
      · exact List.mem_takeWhile_imp inPlaces

theorem Fraction.unique {s v v' r r' : List Char} (fraction : Fraction s v r)
    (fraction' : Fraction s v' r') : v = v' ∧ r = r' := by
  obtain ⟨after, point, -, -, rfl, rfl⟩ := fraction_iff.1 fraction
  obtain ⟨after', point', -, -, rfl, rfl⟩ := fraction_iff.1 fraction'
  obtain rfl : after = after' := (List.cons.inj (point.symm.trans point')).2
  exact ⟨rfl, rfl⟩

theorem Fraction.head {s v r : List Char} (fraction : Fraction s v r) :
    ∃ c rest, s = c :: rest ∧ (c = '.' ∨ Text.isWord c = true) := by
  obtain ⟨rfl, ⟨whole, places, rfl, -, digits⟩, -⟩ := fraction
  cases whole with
  | nil => exact ⟨'.', places ++ r, rfl, .inl rfl⟩
  | cons c whole =>
    exact ⟨c, _, rfl, .inr (Text.isWord_of_isDigit (digits c (by simp)))⟩

theorem Fraction.not_quote {s v r : List Char} (fraction : Fraction s v r) :
    s.head? ≠ some '"' := by
  obtain ⟨c, rest, rfl, rfl | letter⟩ := fraction.head
  · simp
  · intro isQuote
    obtain rfl := Option.some.inj isQuote
    exact absurd letter (by decide)

theorem Value.head {s r : List Char} {v : String} (value : Value s v r) :
    ∃ c rest, s = c :: rest ∧ (c = '"' ∨ c = '.' ∨ Text.isWord c = true) := by
  cases value with
  | quoted quoted =>
    obtain ⟨inside, rfl, -⟩ := quoted
    exact ⟨'"', inside, rfl, .inl rfl⟩
  | fraction fraction =>
    obtain ⟨c, rest, rfl, first⟩ := fraction.head
    exact ⟨c, rest, rfl, .inr first⟩
  | word word _ =>
    obtain ⟨c, rest, rfl, letter⟩ := word.head
    exact ⟨c, rest, rfl, .inr (.inr letter)⟩

theorem Value.solid {s r : List Char} {v : String} (value : Value s v r) : Solid s := by
  obtain ⟨c, rest, rfl, rfl | rfl | letter⟩ := value.head
  · exact solid_cons rfl
  · exact solid_cons rfl
  · exact solid_cons (isPlain_of_isWord letter)

end Grammar

namespace Reader

/-- A decimal is taken where one stands, and else the word, if there is one. -/
theorem bareValue?_cases (s : List Char) :
    (∃ v r, Fraction s v r ∧ bareValue? s = some (v, r)) ∨
    (∀ v r, ¬ Fraction s v r) ∧ bareValue? s =
      if (s.takeWhile Text.isWord).isEmpty then none
      else some (s.takeWhile Text.isWord, s.dropWhile Text.isWord) := by
  unfold bareValue?
  dsimp only
  split
  · rename_i after point
    split
    · rename_i missing
      refine .inr ⟨fun v r fraction => ?_, rfl⟩
      obtain ⟨after', point', nonempty, ends, -⟩ := fraction_iff.1 fraction
      obtain rfl : after = after' := (List.cons.inj (point.symm.trans point')).2
      simp only [Bool.or_eq_true, List.isEmpty_iff, nonempty, false_or, Option.any_eq_true]
        at missing
      obtain ⟨c, member, letter⟩ := missing
      exact absurd (ends c member) (by simp [letter])
    · rename_i present
      simp only [Bool.or_eq_true, List.isEmpty_iff, not_or] at present
      refine .inl ⟨_, _, fraction_iff.2 ⟨after, point, present.1, ?_, rfl, rfl⟩, rfl⟩
      intro c member
      cases letter : Text.isWord c with
      | false => rfl
      | true => exact absurd ((Option.any_eq_true ..).2 ⟨c, member, letter⟩) present.2
  · rename_i noPoint
    refine .inr ⟨fun v r fraction => ?_, rfl⟩
    obtain ⟨after, point, -⟩ := fraction_iff.1 fraction
    exact noPoint after point

theorem bareValue?_eq_some_iff {s v r : List Char} :
    bareValue? s = some (v, r) ↔
      Fraction s v r ∨ (Word s v r ∧ ∀ v' r', ¬ Fraction s v' r') := by
  rcases bareValue?_cases s with ⟨v', r', fraction, taken⟩ | ⟨none, taken⟩
  · rw [taken]
    constructor
    · intro same
      obtain ⟨rfl, rfl⟩ := Prod.mk.inj (Option.some.inj same)
      exact .inl fraction
    · rintro (other | ⟨-, none⟩)
      · obtain ⟨rfl, rfl⟩ := fraction.unique other
        rfl
      · exact absurd fraction (none _ _)
  · rw [taken]
    constructor
    · intro same
      split at same
      · cases same
      · rename_i nonempty
        obtain ⟨rfl, rfl⟩ := Prod.mk.inj (Option.some.inj same)
        exact .inr ⟨word_of_takeWhile (by simpa using nonempty), none⟩
    · rintro (fraction | ⟨whole, -⟩)
      · exact absurd fraction (none _ _)
      · rw [whole.takeWhile, whole.dropWhile, if_neg (by simpa using whole.nonempty)]

theorem bareValue_eq_ok_iff {s r : List Char} {text : String} :
    bareValue s = .ok (text, r) ↔ ∃ v, text = String.ofList v ∧
      (Fraction s v r ∨ (Word s v r ∧ ∀ v' r', ¬ Fraction s v' r')) := by
  simp only [← bareValue?_eq_some_iff]
  unfold bareValue
  constructor
  · intro read
    split at read
    · rename_i v rest found
      obtain ⟨rfl, rfl⟩ := Prod.mk.inj (Except.ok.inj read)
      exact ⟨v, rfl, found⟩
    · cases read
  · rintro ⟨v, rfl, found⟩
    rw [found]

theorem value_eq_ok_iff {s r : List Char} {v : String} :
    value s = .ok (v, r) ↔ ∃ t, Gap s t ∧ Value t v r := by
  rw [value, bind_eq_ok_iff]
  constructor
  · rintro ⟨_, t, skipped, read⟩
    refine ⟨t, (skipLayout_eq_ok_iff.1 skipped).1, ?_⟩
    obtain ⟨text?, u, taken, finished⟩ := bind_eq_ok_iff.1 read
    cases text? with
    | some text =>
      obtain ⟨v, rfl, quoted⟩ := quoted_of_quoted? taken
      obtain ⟨rfl, rfl⟩ := pure_eq_ok_iff.1 finished
      exact .quoted quoted
    | none =>
      obtain ⟨rfl, -⟩ := head_of_quoted? taken
      obtain ⟨v, rfl, fraction | ⟨whole, none⟩⟩ := bareValue_eq_ok_iff.1 finished
      · exact .fraction fraction
      · exact .word whole none
  · rintro ⟨t, gap, given⟩
    refine ⟨(), t, skipLayout_of_gap gap given.solid, ?_⟩
    cases given with
    | quoted quoted =>
      rw [bind_of_ok (quoted?_of_quoted quoted)]
      rfl
    | fraction fraction =>
      rw [bind_of_ok (quoted?_of_head fraction.not_quote)]
      exact bareValue_eq_ok_iff.2 ⟨_, rfl, .inl fraction⟩
    | word whole none =>
      rw [bind_of_ok (quoted?_of_head whole.not_quote)]
      exact bareValue_eq_ok_iff.2 ⟨_, rfl, .inr ⟨whole, none⟩⟩

/-! ## Operators -/

variable {token : α → String}

theorem acceptAny_of_absent {choices : List α} {s : List Char}
    (absent : ∀ a ∈ choices, ¬ (token a).toList <+: s) :
    acceptAny token choices s = .ok (none, s) := by
  induction choices with
  | nil => rfl
  | cons a rest step =>
    rw [acceptAny, bind_of_ok (accept_of_absent (absent a (by simp)))]
    exact step fun b member => absent b (List.mem_cons_of_mem _ member)

/-- One of the tokens is taken, and none of those before it stands here. -/
theorem acceptAny_cases (token : α → String) (choices : List α) (s : List Char) :
    (acceptAny token choices s = .ok (none, s) ∧ ∀ a ∈ choices, ¬ (token a).toList <+: s) ∨
    ∃ before a after r, choices = before ++ a :: after ∧ s = (token a).toList ++ r ∧
      (∀ b ∈ before, ¬ (token b).toList <+: s) ∧
      acceptAny token choices s = .ok (some a, r) := by
  induction choices with
  | nil => exact .inl ⟨rfl, by simp⟩
  | cons a rest step =>
    rw [acceptAny]
    by_cases stands : (token a).toList <+: s
    · obtain ⟨r, rfl⟩ := stands
      refine .inr ⟨[], a, rest, r, rfl, rfl, by simp, ?_⟩
      rw [bind_of_ok (accept_append _ _)]
      rfl
    · rw [bind_of_ok (accept_of_absent stands)]
      rcases step with ⟨taken, absent⟩ | ⟨before, b, after, r, rfl, splits, absent, taken⟩
      · refine .inl ⟨taken, fun b member => ?_⟩
        rcases List.mem_cons.1 member with rfl | inRest
        · exact stands
        · exact absent b inRest
      · refine .inr ⟨a :: before, b, after, r, rfl, splits, fun c member => ?_, taken⟩
        rcases List.mem_cons.1 member with rfl | inRest
        · exact stands
        · exact absent c inRest

theorem acceptAny_eq_some {choices : List α} {s r : List Char} {a : α}
    (taken : acceptAny token choices s = .ok (some a, r)) : s = (token a).toList ++ r := by
  rcases acceptAny_cases token choices s with ⟨none, -⟩ | ⟨_, b, _, t, -, splits, -, taken'⟩
  · cases none.symm.trans taken
  · cases taken'.symm.trans taken
    exact splits

theorem acceptAny_eq_none {choices : List α} {s r : List Char}
    (taken : acceptAny token choices s = .ok (none, r)) :
    r = s ∧ ∀ a ∈ choices, ¬ (token a).toList <+: s := by
  rcases acceptAny_cases token choices s with ⟨none, absent⟩ | ⟨_, b, _, t, -, -, -, taken'⟩
  · cases none.symm.trans taken
    exact ⟨rfl, absent⟩
  · cases taken'.symm.trans taken

theorem arcToken_injective : ∀ kind other : ArcKind,
    kind.token.toList = other.token.toList → kind = other := by
  have apart : ∀ kind ∈ ArcKind.all, ∀ other ∈ ArcKind.all,
      kind.token.toList = other.token.toList → kind = other := by decide
  exact fun kind other => apart kind (ArcKind.mem_all kind) other (ArcKind.mem_all other)

/-- Taking the first operator of the list is taking the longest. -/
theorem acceptAny_operator_iff {s r : List Char} {kind : ArcKind} :
    acceptAny ArcKind.token ArcKind.longestFirst s = .ok (some kind, r) ↔ Operator s kind r := by
  have ordered : ArcKind.longestFirst.Pairwise fun a b =>
      b.token.toList.length ≤ a.token.toList.length := by decide
  have sound {k : ArcKind} {t : List Char}
      (taken : acceptAny ArcKind.token ArcKind.longestFirst s = .ok (some k, t)) :
      Operator s k t := by
    refine ⟨acceptAny_eq_some taken, fun other stands => ?_⟩
    rcases acceptAny_cases ArcKind.token ArcKind.longestFirst s with
      ⟨none, -⟩ | ⟨before, k', after, t', listed, -, absent, taken'⟩
    · cases none.symm.trans taken
    · cases taken'.symm.trans taken
      rw [listed] at ordered
      have member := ArcKind.mem_longestFirst other
      rw [listed] at member
      rcases List.mem_append.1 member with earlier | later
      · exact absurd stands (absent other earlier)
      · rcases List.mem_cons.1 later with rfl | later
        · exact Nat.le_refl _
        · exact (List.pairwise_cons.1 (List.pairwise_append.1 ordered).2.1).1 other later
  constructor
  · exact sound
  · intro operator
    rcases acceptAny_cases ArcKind.token ArcKind.longestFirst s with
      ⟨-, absent⟩ | ⟨before, k, after, t, -, splits, -, taken⟩
    · exact absurd ⟨r, operator.text.symm⟩ (absent kind (ArcKind.mem_longestFirst kind))
    · -- Of two longest operators, both stand here and are of one length.
      have lengths := Nat.le_antisymm ((sound taken).longest kind ⟨r, operator.text.symm⟩)
        (operator.longest k ⟨t, splits.symm⟩)
      obtain ⟨sameToken, sameRest⟩ := List.append_inj (operator.text.symm.trans splits) lengths
      rw [taken, arcToken_injective _ _ sameToken, sameRest]

theorem acceptAny_empty (kind : EmptyKind) (r : List Char) :
    acceptAny EmptyKind.token EmptyKind.all (kind.token.toList ++ r) = .ok (some kind, r) := by
  cases kind <;> rfl

end Reader

theorem ArcKind.equals_token {kind : ArcKind} (first : kind.token.toList.head? = some '=') :
    ∃ c rest, kind.token.toList = '=' :: c :: rest ∧ (c = '>' ∨ c = '=') := by
  cases kind with
  | method => exact ⟨'>', [], rfl, .inl rfl⟩
  | callback => exact ⟨'>', ['>'], rfl, .inl rfl⟩
  | doubleLine => exact ⟨'=', [], rfl, .inr rfl⟩
  | _ => exact absurd first (by decide)

namespace Grammar

theorem Operator.solid {s r : List Char} {kind : ArcKind} (operator : Operator s kind r) :
    Solid s := by
  rw [operator.text]
  cases kind <;> exact solid_cons rfl

/-- The only word that stands where an operator stands is the letter of `x-`. -/
theorem Operator.word_eq {s r w r' : List Char} {kind : ArcKind} (operator : Operator s kind r)
    (word : Word s w r') : w = ['x'] := by
  obtain ⟨c, rest, splits, letter⟩ := word.head
  have text := operator.text
  cases kind with
  | lostBack =>
    rw [← word.takeWhile, text]
    refine takeWhile_of_stops (w := ['x']) (List.all_eq_true.1 (by decide)) ?_
    rintro c ⟨⟩
    decide
  | _ =>
    rw [text] at splits
    obtain rfl := (List.cons.inj splits).1
    exact absurd letter (by decide)

end Grammar

end SeqChart
