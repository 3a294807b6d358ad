import SeqChart.Reader.Layout
import SeqChart.Chart.Vocabulary
/-!
Names and values: bare words, numbers, and quoted strings.

Inside quotes a backslash and the character after it belong together: before a quote it stands for
that quote, before anything else both are kept.
-/

namespace SeqChart.Reader

/-- The value of a quoted string whose opening quote has been passed, and what follows it. -/
def closeQuote? : List Char → Option (List Char × List Char)
  | [] => none
  | '"' :: rest => some ([], rest)
  | '\\' :: c :: rest =>
    (closeQuote? rest).map fun (value, after) =>
      (if c = '"' then '"' :: value else '\\' :: c :: value, after)
  | c :: rest => (closeQuote? rest).map fun (value, after) => (c :: value, after)

/-- The quoted string that stands here, if one does. -/
def quoted? : Reader (Option String) := fun s =>
  match s with
  | '"' :: inside =>
    match closeQuote? inside with
    | some (value, rest) => .ok (some (String.ofList value), rest)
    | none => .error ⟨.unterminatedString, s⟩
  | _ => .ok (none, s)

/-- A fraction is taken whole when no word character follows it; else the longest word counts. -/
def bareValue? (s : List Char) : Option (List Char × List Char) :=
  let word := (s.takeWhile Text.isWord, s.dropWhile Text.isWord)
  let word? := if word.1.isEmpty then none else some word
  match s.dropWhile Text.isDigit with
  | '.' :: fraction =>
    let places := fraction.takeWhile Text.isDigit
    let rest := fraction.dropWhile Text.isDigit
    if places.isEmpty || rest.head?.any Text.isWord then word?
    else some (s.takeWhile Text.isDigit ++ '.' :: places, rest)
  | _ => word?

/-- An entity name. A reserved word has to be quoted. -/
def name : Reader String := do
  skipLayout
  let place ← get
  match ← quoted? with
  | some text => if text.isEmpty then failAt place .emptyName else return text
  | none =>
    let text := String.ofList (← word)
    if text.isEmpty then fail (.expected .entityName)
    else if reservedWords.contains (Text.lowerText text) then failAt place (.reservedName text)
    else return text

/-- An end of a message: an entity name, or a star for all of them. -/
def endpoint : Reader String := do
  skipLayout
  if ← accept broadcast.toList then return broadcast
  name

def bareValue : Reader String := fun s =>
  match bareValue? s with
  | some (text, rest) => .ok (String.ofList text, rest)
  | none => .error ⟨.expected .value, s⟩

/-- The value of an option or an attribute. -/
def value : Reader String := do
  skipLayout
  match ← quoted? with
  | some text => return text
  | none => bareValue

theorem length_of_closeQuote? {s value rest : List Char}
    (closed : closeQuote? s = some (value, rest)) : rest <:+ s ∧ rest.length < s.length := by
  fun_induction closeQuote? s generalizing value rest with
  | case1 => simp at closed
  | case2 s =>
    obtain ⟨-, rfl⟩ : [] = value ∧ s = rest := by simpa using closed
    exact ⟨List.suffix_cons .., by simp⟩
  | case3 c s step =>
    obtain ⟨⟨value', rest'⟩, closed', same⟩ := Option.map_eq_some_iff.1 closed
    obtain ⟨-, rfl⟩ := Prod.mk.inj same
    obtain ⟨ends, less⟩ := step closed'
    exact ⟨ends.trans ⟨['\\', c], rfl⟩, by simp only [List.length_cons]; omega⟩
  | case4 c s _ _ step =>
    obtain ⟨⟨value', rest'⟩, closed', same⟩ := Option.map_eq_some_iff.1 closed
    obtain ⟨-, rfl⟩ := Prod.mk.inj same
    obtain ⟨ends, less⟩ := step closed'
    exact ⟨ends.trans (List.suffix_cons ..), by simp only [List.length_cons]; omega⟩

theorem quoted?_some {s r : List Char} {text : String} (read : quoted? s = .ok (some text, r)) :
    r <:+ s ∧ r.length < s.length := by
  unfold quoted? at read
  split at read
  · split at read
    · rename_i closed
      obtain ⟨-, rfl⟩ := Prod.mk.inj (Except.ok.inj read)
      obtain ⟨ends, less⟩ := length_of_closeQuote? closed
      exact ⟨ends.trans (List.suffix_cons ..), by simp only [List.length_cons]; omega⟩
    · simp at read
  · simp at read

theorem quoted?_none {s r : List Char} (read : quoted? s = .ok (none, r)) : r = s := by
  unfold quoted? at read
  split at read
  · split at read <;> simp at read
  · simpa using read.symm

theorem length_of_bareValue? {s text rest : List Char} (found : bareValue? s = some (text, rest)) :
    rest <:+ s ∧ rest.length < s.length := by
  have splits : s.takeWhile Text.isWord ++ s.dropWhile Text.isWord = s :=
    List.takeWhile_append_dropWhile
  have wordTaken {t u : List Char}
      (taken : (if (s.takeWhile Text.isWord).isEmpty then none
        else some (s.takeWhile Text.isWord, s.dropWhile Text.isWord)) = some (t, u)) :
      u <:+ s ∧ u.length < s.length := by
    split at taken
    · simp at taken
    · rename_i some_word
      obtain ⟨-, rfl⟩ := Prod.mk.inj (Option.some.inj taken)
      refine ⟨List.dropWhile_suffix _, ?_⟩
      have lengths := congrArg List.length splits
      rw [List.length_append] at lengths
      have : 0 < (s.takeWhile Text.isWord).length := by
        simpa [List.length_pos_iff] using some_word
      omega
  unfold bareValue? at found
  dsimp only at found
  split at found
  · rename_i fraction point
    split at found
    · exact wordTaken found
    · obtain ⟨-, rfl⟩ := Prod.mk.inj (Option.some.inj found)
      have inside : '.' :: fraction <:+ s := point ▸ List.dropWhile_suffix _
      have ends := List.dropWhile_suffix (l := fraction) Text.isDigit
      have less := inside.length_le
      have less' := ends.length_le
      exact ⟨ends.trans ((List.suffix_cons ..).trans inside), by
        simp only [List.length_cons] at less; omega⟩
  · exact wordTaken found

theorem advances_bareValue : Advances bareValue := by
  intro s a r read
  unfold bareValue at read
  split at read
  · rename_i found
    obtain ⟨-, rfl⟩ := Prod.mk.inj (Except.ok.inj read)
    exact length_of_bareValue? found
  · simp at read

theorem advances_value : Advances value := by
  refine leavesEnd_skipLayout.bind_advances fun _ s a t read => ?_
  rw [bind_apply] at read
  split at read
  · simp at read
  · rename_i text r read'
    cases text with
    | none => exact quoted?_none read' ▸ advances_bareValue r a t read
    | some text =>
      obtain ⟨-, rfl⟩ := Prod.mk.inj (Except.ok.inj read)
      exact quoted?_some read'

theorem advances_name : Advances name := by
  refine leavesEnd_skipLayout.bind_advances fun _ => leavesEnd_get.bind_advances fun place => ?_
  intro s a t read
  rw [bind_apply] at read
  split at read
  · simp at read
  · rename_i text r read'
    cases text with
    | some text =>
      have more := quoted?_some read'
      dsimp only at read
      split at read
      · exact nomatch read
      · obtain ⟨-, rfl⟩ := Prod.mk.inj (Except.ok.inj read)
        exact more
    | none =>
      obtain rfl := quoted?_none read'
      dsimp only at read
      rw [bind_apply] at read
      simp only [word] at read
      split at read
      · exact nomatch read
      · rename_i some_word
        split at read
        · exact nomatch read
        · obtain ⟨-, rfl⟩ := Prod.mk.inj (Except.ok.inj read)
          refine ⟨List.dropWhile_suffix _, ?_⟩
          have splits : r.takeWhile Text.isWord ++ r.dropWhile Text.isWord = r :=
            List.takeWhile_append_dropWhile
          have lengths := congrArg List.length splits
          rw [List.length_append] at lengths
          have : 0 < (r.takeWhile Text.isWord).length := by
            simpa [List.length_pos_iff] using some_word
          omega

theorem advances_accept_or {token : List Char} {p : Reader α} {a : α} (takes : token ≠ [])
    (other : Advances p) : Advances (do if ← accept token then return a else p) := by
  intro s b r read
  rw [bind_apply] at read
  unfold accept at read
  split at read
  · simp at read
  · rename_i found t read'
    split at read'
    · rename_i rest follows
      obtain ⟨rfl, rfl⟩ := Prod.mk.inj (Except.ok.inj read')
      obtain ⟨-, rfl⟩ := Prod.mk.inj (Except.ok.inj read)
      have splits := suffix_of_after? follows
      refine ⟨⟨token, splits.symm⟩, ?_⟩
      have := List.length_pos_iff.2 takes
      rw [splits, List.length_append]
      omega
    · obtain ⟨rfl, rfl⟩ := Prod.mk.inj (Except.ok.inj read')
      exact other s b r read

theorem advances_endpoint : Advances endpoint :=
  leavesEnd_skipLayout.bind_advances fun _ => advances_accept_or (by decide) advances_name

end SeqChart.Reader
