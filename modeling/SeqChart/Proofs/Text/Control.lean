import Mathlib.Data.List.TakeWhile
import SeqChart.Text.Control
/-!
Control sequences in a text. Main statements: `withoutSequences_eq_self_iff`, that a text is left as
it is if and only if no control sequence stands anywhere in it, and `withoutSequences_first`, that
else the first one goes and the text goes on behind it.
-/

namespace SeqChart.Text

/-- An escape character, a bracket, parameters and a letter. -/
inductive ControlSequence : List Char → Prop
  | mk {parameters : List Char} {last : Char} (inside : ∀ c ∈ parameters, isParameter c = true)
      (letter : last.isAlpha = true) :
      ControlSequence (escapeChar :: '[' :: (parameters ++ [last]))

theorem not_isParameter_of_isAlpha {c : Char} (letter : c.isAlpha = true) :
    isParameter c = false := by
  cases parameter : isParameter c with
  | false => rfl
  | true =>
    simp only [isParameter, Bool.or_eq_true, decide_eq_true_eq] at parameter
    rcases parameter with (digit | rfl) | rfl
    · have below : c.val ≤ '9'.val := of_decide_eq_true (Bool.and_eq_true_iff.1 digit).2
      have above : 'A'.val ≤ c.val := by
        rcases Bool.or_eq_true_iff.1 letter with upper | lower
        · exact (of_decide_eq_true upper).1
        · exact UInt32.le_trans (by decide) (of_decide_eq_true (Bool.and_eq_true_iff.1 lower).1)
      exact absurd (UInt32.le_trans above below) (by decide)
    · cases letter
    · cases letter

theorem dropWhile_parameters {parameters rest : List Char} {last : Char}
    (inside : ∀ c ∈ parameters, isParameter c = true) (letter : last.isAlpha = true) :
    (parameters ++ last :: rest).dropWhile isParameter = last :: rest := by
  induction parameters with
  | nil => simp [not_isParameter_of_isAlpha letter]
  | cons c more step =>
    obtain ⟨first, others⟩ := List.forall_mem_cons.1 inside
    rw [List.cons_append, List.dropWhile_cons, if_pos first]
    exact step others

theorem afterSequence?_append {sequence : List Char} (control : ControlSequence sequence)
    (rest : List Char) : afterSequence? (sequence ++ rest) = some rest := by
  obtain ⟨inside, letter⟩ := control
  simp only [List.cons_append, List.append_assoc, afterSequence?, if_pos, List.nil_append,
    dropWhile_parameters inside letter, letter]

theorem sequence_of_afterSequence? {s rest : List Char} (found : afterSequence? s = some rest) :
    ∃ sequence, ControlSequence sequence ∧ s = sequence ++ rest := by
  unfold afterSequence? at found
  split at found
  · rename_i first inside
    split at found
    · rename_i escape
      split at found
      · rename_i last rest' ends
        split at found
        · rename_i letter
          cases found
          refine ⟨_, .mk (fun c member => List.mem_takeWhile_imp (l := inside) member) letter, ?_⟩
          have splits := List.takeWhile_append_dropWhile (p := isParameter) (l := inside)
          rw [ends] at splits
          simp [escape, splits]
        · cases found
      · cases found
    · cases found
  · cases found

theorem length_withoutSequences_le (s : List Char) : (withoutSequences s).length ≤ s.length := by
  fun_induction withoutSequences s with
  | case1 => exact Nat.le_refl _
  | case2 c rest after found less step => exact Nat.le_trans step (Nat.le_of_lt less)
  | case3 c rest absent step => exact Nat.succ_le_succ step

theorem withoutSequences_eq_self_iff {s : List Char} :
    withoutSequences s = s ↔ ∀ sequence, ControlSequence sequence → ¬ sequence <:+: s := by
  constructor
  · intro same sequence control inside
    induction s with
    | nil =>
      obtain rfl := List.infix_nil.1 inside
      cases control
    | cons c rest step =>
      rw [withoutSequences_cons] at same
      cases found : afterSequence? (c :: rest) with
      | some after =>
        -- A sequence has been taken out, and nothing makes up for its length.
        rw [found] at same
        dsimp only at same
        have shorter := length_withoutSequences_le after
        rw [same] at shorter
        exact absurd (length_of_afterSequence? found) (Nat.not_lt_of_le shorter)
      | none =>
        rw [found] at same
        rcases List.infix_cons_iff.1 inside with ⟨after, starts⟩ | inside
        · rw [← starts, afterSequence?_append control] at found
          cases found
        · exact step (List.cons.inj same).2 inside
  · intro absent
    induction s with
    | nil => simp [withoutSequences]
    | cons c rest step =>
      have here : afterSequence? (c :: rest) = none := by
        refine Option.eq_none_iff_forall_not_mem.2 fun after found => ?_
        obtain ⟨sequence, control, splits⟩ := sequence_of_afterSequence? found
        exact absent sequence control ⟨[], after, by rw [splits, List.nil_append]⟩
      have behind := step fun sequence control inside =>
        absent sequence control (inside.trans (List.suffix_cons c rest).isInfix)
      rw [withoutSequences_cons, here, behind]

/-! ## The first sequence -/

theorem ControlSequence.no_escape_behind {sequence : List Char}
    (control : ControlSequence sequence) : escapeChar ∉ sequence.tail := by
  obtain ⟨inside, letter⟩ := control
  simp only [List.tail_cons, List.mem_cons, List.mem_append, List.not_mem_nil, or_false, not_or]
  refine ⟨by decide, fun member => ?_, ?_⟩
  · exact absurd (inside _ member) (by decide)
  · rintro rfl
    exact absurd letter (by decide)

/-- A sequence that starts in front of another one ends there as well. -/
theorem prefix_of_prefix_append {before sequence other after : List Char}
    (control : ControlSequence sequence) (control' : ControlSequence other) (starts : before ≠ [])
    (inside : other <+: before ++ (sequence ++ after)) : other <+: before := by
  rcases List.prefix_or_prefix_of_prefix inside (List.prefix_append ..) with ends | ⟨more, rfl⟩
  · exact ends
  · rcases more with _ | ⟨c, more⟩
    · exact (List.append_nil before).symm ▸ List.prefix_refl before
    · -- What it reached into would be the escape character.
      obtain ⟨-, -⟩ := control
      have reached := (List.prefix_append_right_inj before).1 inside
      obtain rfl : c = escapeChar := (List.cons_prefix_cons.1 reached).1
      refine absurd ?_ control'.no_escape_behind
      rw [List.tail_append_of_ne_nil starts]
      exact List.mem_append_right _ List.mem_cons_self

theorem withoutSequences_first {before sequence : List Char} (control : ControlSequence sequence)
    (first : ∀ other, ControlSequence other → ¬ other <:+: before) (after : List Char) :
    withoutSequences (before ++ (sequence ++ after)) = before ++ withoutSequences after := by
  induction before with
  | nil =>
    have taken := afterSequence?_append control after
    obtain ⟨-, -⟩ := control
    rw [List.nil_append, List.cons_append, withoutSequences_cons, ← List.cons_append, taken]
    rfl
  | cons c before step =>
    have here : afterSequence? (c :: before ++ (sequence ++ after)) = none := by
      refine Option.eq_none_iff_forall_not_mem.2 fun rest found => ?_
      obtain ⟨other, control', splits⟩ := sequence_of_afterSequence? found
      have inside := prefix_of_prefix_append control control' (List.cons_ne_nil c before)
        (splits ▸ List.prefix_append other rest)
      exact first other control' inside.isInfix
    have behind := step fun other control' inside =>
      first other control' (inside.trans (List.suffix_cons c before).isInfix)
    rw [List.cons_append] at here ⊢
    rw [withoutSequences_cons, here]
    exact congrArg (c :: ·) behind

/-- Where sequences stand in a text, one of them is the first. -/
theorem exists_first {s sequence : List Char} (control : ControlSequence sequence)
    (inside : sequence <:+: s) : ∃ before sequence after, ControlSequence sequence ∧
      s = before ++ (sequence ++ after) ∧ ∀ other, ControlSequence other → ¬ other <:+: before := by
  induction s with
  | nil =>
    obtain rfl := List.infix_nil.1 inside
    cases control
  | cons c rest step =>
    by_cases starts : ∃ other, ControlSequence other ∧ other <+: c :: rest
    · obtain ⟨other, control', after, splits⟩ := starts
      refine ⟨[], other, after, control', splits.symm, fun empty control' inside => ?_⟩
      obtain rfl := List.infix_nil.1 inside
      cases control'
    · rcases List.infix_cons_iff.1 inside with here | behind
      · exact absurd ⟨sequence, control, here⟩ starts
      · obtain ⟨before, found, after, control', rfl, first⟩ := step behind
        refine ⟨c :: before, found, after, control', rfl, fun other control'' inside => ?_⟩
        rcases List.infix_cons_iff.1 inside with here | inside
        · refine starts ⟨other, control'', here.trans ?_⟩
          exact List.prefix_append (c :: before) (found ++ after)
        · exact first other control'' inside

/-- Sequences end with a letter, so the end of a line adds none. -/
theorem infix_of_infix_newline {s sequence : List Char} (control : ControlSequence sequence)
    (inside : sequence <:+: s ++ ['\n']) : sequence <:+: s := by
  obtain ⟨before, after, splits⟩ := inside
  rcases List.eq_nil_or_concat after with rfl | ⟨after, c, rfl⟩
  · obtain @⟨parameters, last, -, letter⟩ := control
    have ends := congrArg List.getLast? splits
    simp only [List.append_nil, ← List.cons_append, ← List.append_assoc, List.getLast?_concat]
      at ends
    obtain rfl := Option.some.inj ends
    cases letter
  · rw [List.concat_eq_append, ← List.append_assoc] at splits
    exact ⟨before, after, (List.append_inj' splits rfl).1⟩

end SeqChart.Text
