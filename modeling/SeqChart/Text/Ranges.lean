/-!
Sets of characters given by sorted, disjoint ranges of code points.
-/

namespace SeqChart.Text

/-- Closed ranges of code points, in increasing order and apart from each other. -/
abbrev Ranges := List (Nat × Nat)

/-- Looks no further than the first range that starts above the code point. -/
def Ranges.has : Ranges → Nat → Bool
  | [], _ => false
  | (low, high) :: rest, code =>
    if code < low then false else if code ≤ high then true else Ranges.has rest code

theorem Ranges.mem_of_has {ranges : Ranges} {code : Nat} (present : ranges.has code = true) :
    ∃ range ∈ ranges, range.1 ≤ code ∧ code ≤ range.2 := by
  induction ranges with
  | nil => simp [Ranges.has] at present
  | cons range rest step =>
    obtain ⟨low, high⟩ := range
    rw [Ranges.has] at present
    split at present
    · simp at present
    · split at present
      · exact ⟨(low, high), by simp, by omega, by assumption⟩
      · obtain ⟨found, member, bounds⟩ := step present
        exact ⟨found, List.mem_cons_of_mem _ member, bounds⟩

end SeqChart.Text
