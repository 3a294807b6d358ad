import SeqChart.Chart.Vocabulary
import SeqChart.Text.Blank
import SeqChart.Text.Word
/-!
How the character classes lie to each other, and what lower case does to numbers.

The classes are tables of ranges. Whatever is said about two tables at once is decided on their
ranges and carried over to the characters by `Ranges.mem_of_has` and `Ranges.has_of_mem`.
-/

namespace SeqChart.Text

/-- Whether ranges are in increasing order and apart, none of them starting below the bound. -/
def Ranges.ordered : Nat → Ranges → Bool
  | _, [] => true
  | bound, (low, high) :: rest => bound ≤ low && low ≤ high && Ranges.ordered (high + 1) rest

theorem Ranges.low_of_ordered {bound : Nat} {ranges : Ranges}
    (ordered : ranges.ordered bound = true) {range : Nat × Nat} (member : range ∈ ranges) :
    bound ≤ range.1 := by
  induction ranges generalizing bound with
  | nil => simp at member
  | cons first rest step =>
    obtain ⟨low, high⟩ := first
    simp only [Ranges.ordered, Bool.and_eq_true, decide_eq_true_eq] at ordered
    rcases List.mem_cons.1 member with rfl | inRest
    · exact ordered.1.1
    · have := step ordered.2 inRest
      omega

/-- Looking no further than needed misses nothing when the ranges are in order. -/
theorem Ranges.has_of_mem {bound code : Nat} {ranges : Ranges}
    (ordered : ranges.ordered bound = true) {range : Nat × Nat} (member : range ∈ ranges)
    (above : range.1 ≤ code) (below : code ≤ range.2) : ranges.has code = true := by
  induction ranges generalizing bound with
  | nil => simp at member
  | cons first rest step =>
    obtain ⟨low, high⟩ := first
    simp only [Ranges.ordered, Bool.and_eq_true, decide_eq_true_eq] at ordered
    rw [Ranges.has]
    rcases List.mem_cons.1 member with rfl | inRest
    · dsimp only at above below
      rw [if_neg (by omega), if_pos below]
    · have := Ranges.low_of_ordered ordered.2 inRest
      rw [if_neg (by omega)]
      split
      · rfl
      · exact step ordered.2 inRest

theorem isWord_of_isDigit {c : Char} (digit : isDigit c = true) : isWord c = true := by
  have inside : digitRanges.all (fun d =>
      wordRanges.any fun w => Nat.ble w.1 d.1 && Nat.ble d.2 w.2) = true := by
    decide +kernel
  have ordered : Ranges.ordered 0 wordRanges = true := by decide +kernel
  obtain ⟨d, there, above, below⟩ := Ranges.mem_of_has digit
  obtain ⟨w, member, covers⟩ := List.any_eq_true.1 (List.all_eq_true.1 inside d there)
  simp only [Bool.and_eq_true, Nat.ble_eq] at covers
  exact Ranges.has_of_mem ordered member (by omega) (by omega)

theorem isBlank_of_isWord {c : Char} (word : isWord c = true) : isBlank c = false := by
  have apart : blankRanges.all (fun b =>
      wordRanges.all fun w => Nat.blt b.2 w.1 || Nat.blt w.2 b.1) = true := by
    decide +kernel
  cases blank : isBlank c with
  | false => rfl
  | true =>
    obtain ⟨b, there, above, below⟩ := Ranges.mem_of_has blank
    obtain ⟨w, there', above', below'⟩ := Ranges.mem_of_has word
    have := List.all_eq_true.1 (List.all_eq_true.1 apart b there) w there'
    simp only [Bool.or_eq_true, Nat.blt_eq] at this
    omega

/-- The code point is a member of the run. -/
def InRun (run : Nat × Nat × Nat × Int) (code : Nat) : Prop :=
  run.1 ≤ code ∧ code ≤ run.2.1 ∧ (code - run.1) % run.2.2.1 = 0

/-- A code point that is changed is changed by one of the runs. -/
theorem run_of_lowerCode {code : Nat} {runs : List (Nat × Nat × Nat × Int)}
    (changed : lowerCode code runs ≠ code) :
    ∃ run ∈ runs, InRun run code ∧ lowerCode code runs = (code + run.2.2.2).toNat := by
  induction runs with
  | nil => exact absurd rfl changed
  | cons first rest step =>
    obtain ⟨low, high, stride, offset⟩ := first
    rw [lowerCode] at changed ⊢
    split at changed
    · exact absurd rfl changed
    · rename_i above
      rw [if_neg above]
      split at changed
      · rename_i inside
        rw [if_pos inside]
        exact ⟨(low, high, stride, offset), by simp, ⟨Nat.not_lt.1 above, inside⟩, rfl⟩
      · rename_i outside
        rw [if_neg outside]
        obtain ⟨run, member, found⟩ := step changed
        exact ⟨run, List.mem_cons_of_mem _ member, found⟩

/-- A character other than the null one comes from its own code point only. -/
theorem code_of_ofNat {code : Nat} {c : Char} (same : Char.ofNat code = c)
    (some_char : c ≠ '\x00') :
    code = c.toNat := by
  subst same
  by_cases valid : code.isValidChar
  · have made : Char.ofNat code = Char.ofNatAux code valid := dif_pos valid
    rw [made]
    rfl
  · exact absurd (dif_neg valid) some_char

/-- Only the two forms of the first letter have that letter as their lower form. -/
theorem lowerChar_eq_a {c : Char} (lowered : lowerChar c = 'a') : c = 'a' ∨ c = 'A' := by
  have only : lowerRuns.all (fun run =>
      (97 - run.2.2.2 < run.1 || run.2.1 < 97 - run.2.2.2) || 97 - run.2.2.2 == 65) = true := by
    decide +kernel
  have code : lowerCode c.toNat lowerRuns = 97 := code_of_ofNat lowered (by decide)
  -- Of the runs, only the one of the capital itself ends at the small letter.
  by_cases changed : lowerCode c.toNat lowerRuns = c.toNat
  · left
    exact Char.toNat_inj.1 (changed.symm.trans code)
  · right
    obtain ⟨run, member, ⟨above, below, -⟩, same⟩ := run_of_lowerCode changed
    have := List.all_eq_true.1 only run member
    simp only [Bool.or_eq_true, decide_eq_true_eq, beq_iff_eq] at this
    have value : (c.toNat : Int) + run.2.2.2 = 97 := by omega
    have : c.toNat = 65 := by omega
    exact Char.toNat_inj.1 this

end SeqChart.Text
