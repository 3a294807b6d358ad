import SeqChart.Reader.Basic
import SeqChart.Text.Blank
/-!
Layout: blanks and comments between tokens. A block comment runs to the first `*/`; a line comment
starts with `#` or `//`, runs to the end of its line, and loses the blanks at its end.
-/

namespace SeqChart.Reader

def isLineEnd (c : Char) : Bool := c = '\r' || c = '\n'

/-- Splits a text after its first `*/`. -/
def throughClose? : List Char → Option (List Char × List Char)
  | '*' :: '/' :: rest => some (['*', '/'], rest)
  | c :: rest => (throughClose? rest).map fun (body, after) => (c :: body, after)
  | [] => none

/-- The line comment that starts a text, and what follows it. -/
def lineComment (s : List Char) : List Char × List Char :=
  (Text.trimRight (s.takeWhile (!isLineEnd ·)), s.dropWhile (!isLineEnd ·))

/-- The comment that stands here. -/
def comment? : Reader (Option (List Char)) := fun s =>
  match s with
  | '/' :: '*' :: inside =>
    match throughClose? inside with
    | some (body, rest) => .ok (some ('/' :: '*' :: body), rest)
    | none => .error ⟨.unterminatedComment, s⟩
  | '/' :: '/' :: _ | '#' :: _ =>
    let (text, rest) := lineComment s
    .ok (some text, rest)
  | _ => .ok (none, s)

theorem append_of_throughClose? {s body rest : List Char}
    (closed : throughClose? s = some (body, rest)) : s = body ++ rest := by
  fun_induction throughClose? s generalizing body rest with
  | case1 rest =>
    obtain ⟨rfl, rfl⟩ : ['*', '/'] = body ∧ _ = rest := by simpa using closed
    rfl
  | case2 c s _ step =>
    obtain ⟨⟨body', rest'⟩, closed', same⟩ := Option.map_eq_some_iff.1 closed
    obtain ⟨rfl, rfl⟩ : c :: body' = body ∧ rest' = rest := by simpa using same
    rw [step closed', List.cons_append]
  | case3 => simp at closed

theorem suffix_dropWhile_of_head {p : Char → Bool} {c : Char} {s : List Char} (drops : p c = true) :
    (c :: s).dropWhile p <:+ c :: s ∧ ((c :: s).dropWhile p).length < (c :: s).length := by
  have ends := List.dropWhile_suffix (l := s) p
  refine ⟨List.dropWhile_suffix p, ?_⟩
  have := ends.length_le
  simp only [List.dropWhile_cons, drops, if_true, List.length_cons]
  omega

/-- A comment that is read takes text away. -/
theorem comment?_some {s c r : List Char} (read : comment? s = .ok (some c, r)) :
    r <:+ s ∧ r.length < s.length := by
  unfold comment? at read
  split at read
  · rename_i inside
    split at read
    · rename_i body rest closed
      obtain ⟨-, rfl⟩ : _ ∧ rest = r := by simpa using read
      have := append_of_throughClose? closed
      subst this
      exact ⟨⟨'/' :: '*' :: body, rfl⟩, by simp only [List.length_cons, List.length_append]; omega⟩
    · simp at read
  · simp only [lineComment, Except.ok.injEq, Prod.mk.injEq] at read
    exact read.2 ▸ suffix_dropWhile_of_head (by decide)
  · simp only [lineComment, Except.ok.injEq, Prod.mk.injEq] at read
    exact read.2 ▸ suffix_dropWhile_of_head (by decide)
  · simp at read

/-- The comments of the layout that stands here, in order; blanks are skipped. -/
def comments (s : List Char) : Except Fault (List String × List Char) :=
  match h : comment? (s.dropWhile Text.isBlank) with
  | .error e => .error e
  | .ok (none, r) => .ok ([], r)
  | .ok (some c, r) =>
    have := (comment?_some h).2
    have := (List.dropWhile_suffix (l := s) Text.isBlank).length_le
    (comments r).map fun (more, t) => (String.ofList c :: more, t)
termination_by s.length

theorem comments_eq (s : List Char) : comments s =
    match comment? (s.dropWhile Text.isBlank) with
    | .error e => .error e
    | .ok (none, r) => .ok ([], r)
    | .ok (some c, r) => (comments r).map fun (more, t) => (String.ofList c :: more, t) := by
  rw [comments]
  split <;> simp [*]

/-- Goes past blanks and comments; comments read here belong to nothing. -/
def skipLayout : Reader Unit := fun s => (comments s).map fun (_, r) => ((), r)

theorem comment?_none {s r : List Char} (read : comment? s = .ok (none, r)) : r = s := by
  unfold comment? at read
  split at read
  · split at read <;> simp at read
  · simp [lineComment] at read
  · simp [lineComment] at read
  · simpa using read.symm

theorem leavesEnd_comments : LeavesEnd comments := by
  intro s a r read
  fun_induction comments s generalizing a r with
  | case1 => simp at read
  | case2 s t h =>
    obtain ⟨-, rfl⟩ : [] = a ∧ t = r := by simpa using read
    exact comment?_none h ▸ List.dropWhile_suffix _
  | case3 s c t h _ _ step =>
    cases outcome : comments t with
    | error => simp [outcome, Except.map] at read
    | ok result =>
      obtain ⟨more, u⟩ := result
      obtain ⟨-, rfl⟩ : String.ofList c :: more = a ∧ u = r := by
        simpa [outcome, Except.map] using read
      exact ((step more u outcome).trans (comment?_some h).1).trans (List.dropWhile_suffix _)

theorem leavesEnd_skipLayout : LeavesEnd skipLayout := by
  intro s a r read
  rw [skipLayout] at read
  cases outcome : comments s with
  | error => simp [outcome, Except.map] at read
  | ok result =>
    obtain rfl : result.2 = r := by simpa [outcome, Except.map] using read
    exact leavesEnd_comments s _ _ outcome

/-- Needs the token here, after layout. -/
def expect (token : String) : Reader Unit := do
  skipLayout
  unless ← accept token.toList do fail (.expected (.token token))

theorem leavesEnd_expect (token : String) : LeavesEnd (expect token) :=
  leavesEnd_skipLayout.bind fun _ => (leavesEnd_accept _).bind fun found => by
    cases found
    · exact (advances_fail _).leavesEnd
    · exact leavesEnd_pure _

end SeqChart.Reader
