import SeqChart.Reader.Fault
/-!
Readers take a value from the start of a text and leave the rest. What they leave is always the end
of what they were given, and the readers that loops are built from leave less of it.
-/

namespace SeqChart

abbrev Reader := StateT (List Char) (Except Fault)

namespace Reader

variable {α β σ : Type}

/-- A fault at the place that has been reached. -/
def fail (cause : Cause) : Reader α := fun s => .error ⟨cause, s⟩

/-- A fault at an earlier place. -/
def failAt (place : List Char) (cause : Cause) : Reader α := fun _ => .error ⟨cause, place⟩

/-- What follows the token, where it stands. -/
def after? : (token s : List Char) → Option (List Char)
  | [], s => some s
  | _ :: _, [] => none
  | t :: ts, c :: cs => if t = c then after? ts cs else none

/-- Takes the token, if it stands here. -/
def accept (token : List Char) : Reader Bool := fun s =>
  match after? token s with
  | some rest => .ok (true, rest)
  | none => .ok (false, s)

/-- Takes the first of the tokens that stands here. -/
def acceptAny (token : α → String) : List α → Reader (Option α)
  | [] => pure none
  | a :: rest => do
    if ← accept (token a).toList then return some a
    acceptAny token rest

/-- Takes the longest word that stands here; it may be empty. -/
def word : Reader (List Char) := fun s =>
  .ok (s.takeWhile Text.isWord, s.dropWhile Text.isWord)

/-- Reads ahead: the value is known, and the text stays. -/
def ahead (p : Reader α) : Reader α := fun s => (p s).map fun (a, _) => (a, s)

/-- What is left is the end of what was there. -/
def LeavesEnd (p : Reader α) : Prop := ∀ s a r, p s = .ok (a, r) → r <:+ s

/-- What is left is the end of what was there, and less. -/
def Advances (p : Reader α) : Prop := ∀ s a r, p s = .ok (a, r) → r <:+ s ∧ r.length < s.length

theorem bind_apply (p : Reader α) (f : α → Reader β) (s : List Char) :
    (p >>= f) s = match p s with
      | .error e => .error e
      | .ok (a, r) => f a r := by
  change (p s >>= fun x => f x.1 x.2) = _
  cases p s <;> rfl

theorem Advances.leavesEnd {p : Reader α} (h : Advances p) : LeavesEnd p :=
  fun s a r read => (h s a r read).1

theorem leavesEnd_pure (a : α) : LeavesEnd (pure a : Reader α) := by
  intro s b r read
  cases read
  exact List.suffix_refl s

theorem leavesEnd_get : LeavesEnd (get : Reader (List Char)) := by
  intro s b r read
  cases read
  exact List.suffix_refl s

theorem advances_fail (cause : Cause) : Advances (fail cause : Reader α) :=
  fun _ _ _ read => nomatch read

theorem advances_failAt (place : List Char) (cause : Cause) :
    Advances (failAt place cause : Reader α) :=
  fun _ _ _ read => nomatch read

theorem LeavesEnd.bind {p : Reader α} {f : α → Reader β} (first : LeavesEnd p)
    (next : ∀ a, LeavesEnd (f a)) : LeavesEnd (p >>= f) := by
  intro s b t read
  rw [bind_apply] at read
  split at read
  · simp at read
  · rename_i a r read'
    exact (next a r b t read).trans (first s a r read')

theorem Advances.bind {p : Reader α} {f : α → Reader β} (first : Advances p)
    (next : ∀ a, LeavesEnd (f a)) : Advances (p >>= f) := by
  intro s b t read
  rw [bind_apply] at read
  split at read
  · simp at read
  · rename_i a r read'
    obtain ⟨ends, less⟩ := first s a r read'
    have ends' := next a r b t read
    exact ⟨ends'.trans ends, Nat.lt_of_le_of_lt ends'.length_le less⟩

theorem LeavesEnd.bind_advances {p : Reader α} {f : α → Reader β} (first : LeavesEnd p)
    (next : ∀ a, Advances (f a)) : Advances (p >>= f) := by
  intro s b t read
  rw [bind_apply] at read
  split at read
  · simp at read
  · rename_i a r read'
    obtain ⟨ends, less⟩ := next a r b t read
    have ends' := first s a r read'
    exact ⟨ends.trans ends', Nat.lt_of_lt_of_le less ends'.length_le⟩

theorem suffix_of_after? {token s r : List Char} (found : after? token s = some r) :
    s = token ++ r := by
  fun_induction after? token s with
  | case1 => simpa using found
  | case2 => simp at found
  | case3 t ts cs step => simp [step found]
  | case4 => simp at found

theorem after?_append (token rest : List Char) : after? token (token ++ rest) = some rest := by
  induction token with
  | nil => simp [after?]
  | cons t ts step => simpa [after?] using step

theorem leavesEnd_accept (token : List Char) : LeavesEnd (accept token) := by
  intro s a r read
  rw [accept] at read
  split at read
  · rename_i rest found
    cases read
    exact ⟨token, (suffix_of_after? found).symm⟩
  · cases read
    exact List.suffix_refl s

theorem leavesEnd_acceptAny (token : α → String) (choices : List α) :
    LeavesEnd (acceptAny token choices) := by
  induction choices with
  | nil => exact leavesEnd_pure _
  | cons a rest step =>
    refine (leavesEnd_accept _).bind fun found => ?_
    cases found
    · exact step
    · exact leavesEnd_pure _

theorem leavesEnd_word : LeavesEnd word := by
  intro s a r read
  cases read
  exact List.dropWhile_suffix _

/-- Reads one item after another. Each says what the next is to start from, or that it was the
last. -/
def chain (item : σ → Reader (α × Option σ)) (advances : ∀ x, Advances (item x)) (x : σ)
    (s : List Char) : Except Fault (List α × List Char) :=
  match h : item x s with
  | .error e => .error e
  | .ok ((a, none), r) => .ok ([a], r)
  | .ok ((a, some y), r) =>
    have := (advances x s _ r h).2
    (chain item advances y r).map fun (more, t) => (a :: more, t)
termination_by s.length

theorem chain_eq (item : σ → Reader (α × Option σ)) (advances : ∀ x, Advances (item x)) (x : σ)
    (s : List Char) : chain item advances x s =
      match item x s with
      | .error e => .error e
      | .ok ((a, none), r) => .ok ([a], r)
      | .ok ((a, some y), r) => (chain item advances y r).map fun (more, t) => (a :: more, t) := by
  rw [chain]
  split <;> simp [*]

theorem advances_chain (item : σ → Reader (α × Option σ)) (advances : ∀ x, Advances (item x))
    (x : σ) : Advances (chain item advances x) := by
  intro s a r read
  fun_induction chain item advances x s generalizing a r with
  | case1 => simp at read
  | case2 x s b t h =>
    obtain ⟨-, rfl⟩ : [b] = a ∧ t = r := by simpa using read
    exact advances x s _ _ h
  | case3 x s b y t h less step =>
    cases outcome : chain item advances y t with
    | error => simp [outcome, Except.map] at read
    | ok result =>
      obtain ⟨more, u⟩ := result
      obtain ⟨-, rfl⟩ : b :: more = a ∧ u = r := by simpa [outcome, Except.map] using read
      obtain ⟨ends, less'⟩ := step more u outcome
      exact ⟨ends.trans (advances x s _ _ h).1, Nat.lt_trans less' less⟩

end Reader

end SeqChart
