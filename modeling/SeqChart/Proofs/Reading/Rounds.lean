import SeqChart.Proofs.Reading.Layout
import SeqChart.Reader.Chart
/-!
How often the loops of the readers go round, and how deep they go into blocks. Main statements: with
more rounds than characters are left, and as many levels, it never matters what is done when they
are spent (`commentsFor_eq`, `chainFor_eq`, `rowsFor_eq`).

A loop that is given so many rounds is written as a recursion on that number, and the blocks as one
on the number of levels. What takes over when a number is spent is arbitrary, so a reader that comes
to the same result for all of it never gets there.
-/

namespace SeqChart.Reader

variable {α β σ : Type}

/-! ## Loops with a number of rounds -/

/-- As `comments`, in so many rounds. -/
def commentsFor (spent : Reader (List String)) : Nat → Reader (List String)
  | 0 => spent
  | rounds + 1 => fun s =>
    match comment? (s.dropWhile Text.isBlank) with
    | .error e => .error e
    | .ok (none, r) => .ok ([], r)
    | .ok (some c, r) =>
      (commentsFor spent rounds r).map fun (more, t) => (String.ofList c :: more, t)

/-- As `chain`, in so many rounds. -/
def chainFor (item : σ → Reader (α × Option σ)) (spent : σ → Reader (List α)) :
    Nat → σ → Reader (List α)
  | 0, x => spent x
  | rounds + 1, x => do
    match ← item x with
    | (a, none) => return [a]
    | (a, some y) =>
      let more ← chainFor item spent rounds y
      return a :: more

/-- As `series`, in so many rounds. -/
def seriesFor (item : List String → Reader α) (close : Char) (closesItself : α → Bool)
    (spent : List String → Reader (List α)) (rounds : Nat) (before : List String) :
    Reader (List α) :=
  chainFor (listed item close closesItself) spent rounds before

theorem commentsFor_eq {spent : Reader (List String)} {rounds : Nat} {s : List Char}
    (enough : s.length < rounds) : commentsFor spent rounds s = comments s := by
  induction rounds generalizing s with
  | zero => cases enough
  | succ rounds step =>
    have blanks := (List.dropWhile_suffix (l := s) Text.isBlank).length_le
    rw [commentsFor, comments_eq]
    dsimp only
    cases read : comment? (s.dropWhile Text.isBlank) with
    | error e => rfl
    | ok result =>
      obtain ⟨_ | c, r⟩ := result
      · rfl
      · have less := (comment?_some read).2
        dsimp only
        rw [step (by omega)]

/-! ## Readers that agree on short texts -/

/-- Both do the same with every text of fewer characters. -/
def SameBelow (length : Nat) (p q : Reader α) : Prop := ∀ s, s.length < length → p s = q s

variable {length : Nat}

theorem SameBelow.refl (p : Reader α) : SameBelow length p p := fun _ _ => rfl

theorem SameBelow.mono {p q : Reader α} {more : Nat} (same : SameBelow more p q)
    (fewer : length ≤ more) : SameBelow length p q :=
  fun s short => same s (Nat.lt_of_lt_of_le short fewer)

theorem SameBelow.bind_left {p q : Reader α} (same : SameBelow length p q) (f : α → Reader β) :
    SameBelow length (p >>= f) (q >>= f) := by
  intro s short
  rw [bind_apply, bind_apply, same s short]

theorem SameBelow.bind_right {p : Reader α} {f g : α → Reader β} (ends : LeavesEnd p)
    (next : ∀ a, SameBelow length (f a) (g a)) : SameBelow length (p >>= f) (p >>= g) := by
  intro s short
  rw [bind_apply, bind_apply]
  cases read : p s with
  | error e => rfl
  | ok result =>
    obtain ⟨a, r⟩ := result
    exact next a r (Nat.lt_of_le_of_lt (ends s a r read).length_le short)

/-- Behind a reader that takes something the texts are shorter. -/
theorem SameBelow.behind {p : Reader α} {f g : α → Reader β} (advances : Advances p)
    (next : ∀ a, SameBelow length (f a) (g a)) : SameBelow (length + 1) (p >>= f) (p >>= g) := by
  intro s short
  rw [bind_apply, bind_apply]
  cases read : p s with
  | error e => rfl
  | ok result =>
    obtain ⟨a, r⟩ := result
    have less := (advances s a r read).2
    exact next a r (by omega)

/-- The number of rounds may differ, and the items where the texts are long. -/
theorem chainFor_same {item item' : σ → Reader (α × Option σ)}
    {advances : ∀ x, Advances (item' x)} {spent : σ → Reader (List α)} {rounds : Nat}
    (items : ∀ x, SameBelow length (item x) (item' x)) {s : List Char} (short : s.length < length)
    (enough : s.length < rounds) (x : σ) :
    chainFor item spent rounds x s = chain item' advances x s := by
  induction rounds generalizing x s with
  | zero => cases enough
  | succ rounds step =>
    rw [chainFor, chain_eq, bind_apply, items x s short]
    cases read : item' x s with
    | error e => rfl
    | ok result =>
      obtain ⟨⟨a, _ | y⟩, r⟩ := result
      · rfl
      · -- The item has taken a character, so one round less is still enough for what it left.
        have less := (advances x s _ r read).2
        dsimp only
        rw [bind_apply, step (by omega) (by omega)]
        cases chain item' advances y r <;> rfl

theorem chainFor_eq {item : σ → Reader (α × Option σ)} {advances : ∀ x, Advances (item x)}
    {spent : σ → Reader (List α)} {rounds : Nat} {s : List Char} (enough : s.length < rounds)
    (x : σ) : chainFor item spent rounds x s = chain item advances x s :=
  chainFor_same (fun x => SameBelow.refl (item x)) (Nat.lt_succ_self s.length) enough x

/-! ## Blocks to a number of levels -/

/-- What takes over when the rounds of a loop or the levels of the blocks are spent. -/
structure Spent where
  row : List String → Reader (List (Arc String String))
  rows : List String → Reader (Rows String String)
  block : Option Body
  leavesEnd_row : ∀ before, LeavesEnd (row before)
  leavesEnd_rows : ∀ before, LeavesEnd (rows before)

theorem leavesEnd_chainFor {item : σ → Reader (α × Option σ)} {spent : σ → Reader (List α)}
    (items : ∀ x, LeavesEnd (item x)) (spents : ∀ x, LeavesEnd (spent x)) (rounds : Nat) (x : σ) :
    LeavesEnd (chainFor item spent rounds x) := by
  induction rounds generalizing x with
  | zero => exact spents x
  | succ rounds step =>
    refine (items x).bind fun found => ?_
    obtain ⟨a, _ | y⟩ := found
    · exact leavesEnd_pure _
    · exact (step y).bind fun _ => leavesEnd_pure _

section

variable (spent : Spent) (limit : Int) (rounds : Nat)

/-- As `row`, with so many rounds for the arcs. -/
def rowFor (inner : Option Body) (before : List String) : Reader (List (Arc String String)) :=
  seriesFor (arc limit inner) ';' Arc.isInline spent.row rounds before

/-- As `rowAndNext`, with so many rounds for the arcs. -/
def rowAndNextFor (inner : Option Body) (before : List String) :
    Reader (List (Arc String String) × Option (List String)) := do
  let arcs ← rowFor spent limit rounds inner before
  let next ← comments
  let rest ← get
  return (arcs, if atEnd rest then none else some next)

/-- As `rows`, with so many rounds for the rows and for the arcs of each. -/
def rowsFor (inner : Option Body) (before : List String) : Reader (Rows String String) := do
  if atEnd (← get) then return []
  chainFor (rowAndNextFor spent limit rounds inner) spent.rows rounds before

theorem leavesEnd_rowFor (inner : Option Body) (before : List String) :
    LeavesEnd (rowFor spent limit rounds inner before) :=
  leavesEnd_chainFor
    (fun before => (advances_listed (advances_arc limit inner) _ _ before).leavesEnd)
    spent.leavesEnd_row rounds before

theorem leavesEnd_rowsFor (inner : Option Body) (before : List String) :
    LeavesEnd (rowsFor spent limit rounds inner before) := by
  have rowAndNext (before : List String) :
      LeavesEnd (rowAndNextFor spent limit rounds inner before) :=
    (leavesEnd_rowFor spent limit rounds inner before).bind fun _ =>
      LeavesEnd.bind leavesEnd_comments fun _ => leavesEnd_get.bind fun _ => leavesEnd_pure _
  refine leavesEnd_get.bind fun rest => ?_
  split
  · exact leavesEnd_pure _
  · exact leavesEnd_chainFor rowAndNext spent.leavesEnd_rows rounds before

/-- As `inside`, with so many rounds for every loop. Of the levels that are allowed, only so many
are gone into. -/
def insideFor : (deep levels : Nat) → Option Body
  | _, 0 => none
  | 0, _ + 1 => spent.block
  | deep + 1, levels + 1 => some {
      read := do
        let before ← comments
        rowsFor spent limit rounds (insideFor deep levels) before
      leavesEnd := LeavesEnd.bind leavesEnd_comments fun _ => leavesEnd_rowsFor _ _ _ _ _ }

end

/-- Where any text is short enough, both refuse blocks, or both read them in the same way. -/
def SameInside (length : Nat) (inner inner' : Option Body) : Prop :=
  0 < length → Option.Rel (fun body body' => SameBelow length body.read body'.read) inner inner'

variable {spent : Spent} {limit : Int} {rounds : Nat} {inner inner' : Option Body}

theorem SameInside.mono {more : Nat} (inside : SameInside more inner inner')
    (fewer : length ≤ more) : SameInside length inner inner' := by
  intro some_text
  have both := inside (Nat.lt_of_lt_of_le some_text fewer)
  cases both with
  | none => exact .none
  | some same => exact .some (same.mono fewer)

/-- The name in front of a block takes at least one character. -/
theorem block_same (inside : SameInside length inner inner') (kind : BoxKind ⊕ InlineKind)
    (source : String) (before : List String) :
    SameBelow (length + 1) (block limit inner kind source before)
      (block limit inner' kind source before) := by
  refine .behind advances_name fun target => .bind_right leavesEnd_attributes fun attrs => ?_
  cases kind with
  | inl kind => exact .refl _
  | inr kind =>
    intro s short
    have both := inside (Nat.lt_of_le_of_lt (Nat.zero_le _) short)
    cases both with
    | none => rfl
    | some same =>
      exact SameBelow.bind_right (leavesEnd_expect _) (fun _ => same.bind_left _) s short

theorem arcFrom_same (inside : SameInside length inner inner') (place : List Char) (source : String)
    (before : List String) :
    SameBelow (length + 1) (arcFrom limit inner place source before)
      (arcFrom limit inner' place source before) := by
  refine .bind_right leavesEnd_skipLayout fun _ =>
    .bind_right (leavesEnd_acceptAny _ _) fun operator => ?_
  cases operator with
  | some kind => exact .refl _
  | none =>
    refine .bind_right (leavesEnd_keyword? _ _) fun keyword => ?_
    cases keyword with
    | none => exact .refl _
    | some kind =>
      dsimp only
      split
      · exact .refl _
      · exact block_same inside kind source before

theorem arc_same (inside : SameInside length inner inner') (before : List String) :
    SameBelow (length + 1) (arc limit inner before) (arc limit inner' before) := by
  refine .bind_right leavesEnd_skipLayout fun _ =>
    .bind_right (leavesEnd_acceptAny _ _) fun operator => ?_
  cases operator with
  | some kind => exact .refl _
  | none =>
    exact .bind_right leavesEnd_get fun place =>
      .bind_right advances_endpoint.leavesEnd fun source => arcFrom_same inside place source before

theorem rowFor_same (inside : SameInside length inner inner') (enough : length < rounds)
    (before : List String) :
    SameBelow (length + 1) (rowFor spent limit rounds inner before) (row limit inner' before) :=
  fun _ short => chainFor_same (fun before => (arc_same inside before).bind_left _) short
    (by omega) before

theorem rowsFor_same (inside : SameInside length inner inner') (enough : length < rounds)
    (before : List String) :
    SameBelow (length + 1) (rowsFor spent limit rounds inner before)
      (rows limit inner' before) := by
  refine .bind_right leavesEnd_get fun rest => ?_
  split
  · exact .refl _
  · exact fun s short => chainFor_same
      (fun before => (rowFor_same inside enough before).bind_left _)
      short (by omega) before

/-- Every level that is gone into takes at least one character, so the texts on which the blocks
agree may be longer by one with each. -/
theorem insideFor_same {deep : Nat} (enough : deep ≤ rounds) (levels : Nat) :
    SameInside deep (insideFor spent limit rounds deep levels) (inside limit levels) := by
  induction deep generalizing levels with
  | zero =>
    intro some_text
    cases some_text
  | succ deep step =>
    intro _
    cases levels with
    | zero => exact .none
    | succ levels =>
      exact .some (SameBelow.bind_right (p := comments) leavesEnd_comments fun before =>
        rowsFor_same (step (by omega) levels) (by omega) before)

theorem insideFor_same_of_length {s : List Char} (enough : s.length < rounds) (levels : Nat) :
    SameInside s.length (insideFor spent limit rounds rounds levels) (inside limit levels) :=
  (insideFor_same (Nat.le_refl rounds) levels).mono (Nat.le_of_lt enough)

/-- A row is read with more rounds for every loop than characters are left, and going into as many
blocks inside each other, whatever would take over then. -/
theorem rowFor_eq {s : List Char} (enough : s.length < rounds) (levels : Nat)
    (before : List String) :
    rowFor spent limit rounds (insideFor spent limit rounds rounds levels) before s =
      row limit (inside limit levels) before s :=
  rowFor_same (insideFor_same_of_length enough levels) enough before s (Nat.lt_succ_self _)

theorem rowsFor_eq {s : List Char} (enough : s.length < rounds) (levels : Nat)
    (before : List String) :
    rowsFor spent limit rounds (insideFor spent limit rounds rounds levels) before s =
      rows limit (inside limit levels) before s :=
  rowsFor_same (insideFor_same_of_length enough levels) enough before s (Nat.lt_succ_self _)

end SeqChart.Reader
