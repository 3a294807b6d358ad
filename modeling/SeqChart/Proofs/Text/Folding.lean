import SeqChart.Proofs.Text.Classes
/-!
Lower case stays as it is in lower case. Main statement, `lowerText_lowerText`.

No lower form is changed by a run again. A capital sigma is changed, and a dotted capital I is no
lower form, so that neither of the two special cases comes up a second time.
-/

namespace SeqChart.Text

/-- What a run makes of its members. -/
def lowerForms (run : Nat × Nat × Nat × Int) : List Nat :=
  (List.range ((run.2.1 - run.1) / run.2.2.1 + 1)).map fun index =>
    ((run.1 + run.2.2.1 * index : Nat) + run.2.2.2).toNat

theorem mem_lowerForms {run : Nat × Nat × Nat × Int} {code : Nat} (inside : InRun run code) :
    (code + run.2.2.2).toNat ∈ lowerForms run := by
  obtain ⟨above, below, aligned⟩ := inside
  refine List.mem_map.2 ⟨(code - run.1) / run.2.2.1, List.mem_range.2 ?_, ?_⟩
  · have : (code - run.1) / run.2.2.1 ≤ (run.2.1 - run.1) / run.2.2.1 :=
      Nat.div_le_div_right (by omega)
    omega
  · have : run.1 + run.2.2.1 * ((code - run.1) / run.2.2.1) = code := by
      rw [Nat.mul_div_cancel' (Nat.dvd_of_mod_eq_zero aligned)]
      omega
    rw [this]

/-- A lower form is no dotted capital I, which counts as a run here, and in no run. -/
theorem not_inRun_of_inRun {run : Nat × Nat × Nat × Int} {code : Nat} (member : run ∈ lowerRuns)
    (inside : InRun run code) (other : Nat × Nat × Nat × Int)
    (there : other ∈ ('İ'.toNat, 'İ'.toNat, 1, 0) :: lowerRuns) :
    ¬InRun other (code + run.2.2.2).toNat := by
  -- Two runs that lie apart are told by their ends; only for the rest the members are gone through.
  have apart : lowerRuns.all (fun run =>
      (('İ'.toNat, 'İ'.toNat, 1, 0) :: lowerRuns).all fun other =>
        Nat.blt (run.2.1 + run.2.2.2).toNat other.1 ||
          Nat.blt other.2.1 (run.1 + run.2.2.2).toNat ||
          (lowerForms run).all fun form => !Nat.beq ((form - other.1) % other.2.2.1) 0) = true := by
    decide +kernel
  have := List.all_eq_true.1 (List.all_eq_true.1 apart run member) other there
  simp only [Bool.or_eq_true, Nat.blt_eq, List.all_eq_true, Bool.not_eq_true', ← Bool.not_eq_true,
    Nat.beq_eq] at this
  intro ⟨above, below, aligned⟩
  rcases this with (past | short) | missed
  · have := inside.2.1
    omega
  · have := inside.1
    omega
  · exact missed _ (mem_lowerForms inside) aligned

/-- The character is its own lower form wherever it stands. -/
def Lowered (c : Char) : Prop := lowerChar c = c ∧ c ≠ 'İ'

theorem lowered_lowerChar {c : Char} (dotless : c ≠ 'İ') : Lowered (lowerChar c) := by
  by_cases changed : lowerCode c.toNat lowerRuns = c.toNat
  · have same : lowerChar c = c := by rw [lowerChar, changed, Char.ofNat_toNat]
    exact ⟨by rw [same, same], by rwa [same]⟩
  · obtain ⟨run, member, inside, form⟩ := run_of_lowerCode changed
    have outside := not_inRun_of_inRun member inside
    rw [← form] at outside
    by_cases null : lowerChar c = '\x00'
    · rw [null]
      exact ⟨by decide, by decide⟩
    · have code : lowerCode c.toNat lowerRuns = (lowerChar c).toNat := code_of_ofNat rfl null
      rw [code] at outside
      constructor
      · have fixed : lowerCode (lowerChar c).toNat lowerRuns = (lowerChar c).toNat :=
          Decidable.byContradiction fun changed =>
            have ⟨other, there, inside, _⟩ := run_of_lowerCode changed
            outside other (.tail _ there) inside
        rw [lowerChar, fixed, Char.ofNat_toNat]
      · intro dotted
        rw [dotted] at outside
        exact outside _ (.head _) ⟨Nat.le_refl _, Nat.le_refl _, Nat.mod_one _⟩

theorem lowered_of_mem_lowerFrom {before s : List Char} {c : Char}
    (member : c ∈ lowerFrom before s) : Lowered c := by
  induction s generalizing before with
  | nil => cases member
  | cons first rest step =>
    rcases List.mem_append.1 member with here | later
    · split at here
      · obtain rfl := List.mem_singleton.1 here
        split <;> exact ⟨by decide, by decide⟩
      · split at here
        · have : c = 'i' ∨ c = '\u0307' := by simpa using here
          rcases this with rfl | rfl <;> exact ⟨by decide, by decide⟩
        · rename_i dotless
          obtain rfl := List.mem_singleton.1 here
          exact lowered_lowerChar dotless
    · exact step later

theorem lowerFrom_of_lowered {before s : List Char} (lowered : ∀ c ∈ s, Lowered c) :
    lowerFrom before s = s := by
  induction s generalizing before with
  | nil => rfl
  | cons first rest step =>
    obtain ⟨⟨fixed, dotless⟩, lowered⟩ := List.forall_mem_cons.1 lowered
    have small : first ≠ 'Σ' := by
      rintro rfl
      exact absurd fixed (by decide)
    rw [lowerFrom, if_neg small, if_neg dotless, fixed, step lowered, List.singleton_append]

theorem lowerText_lowerText (s : String) : lowerText (lowerText s) = lowerText s := by
  have : lower (lower s.toList) = lower s.toList :=
    lowerFrom_of_lowered fun _ => lowered_of_mem_lowerFrom
  rw [lowerText, lowerText, String.toList_ofList, this]

/-- A text whose lower form holds no small sigma lowers to the same whatever follows it. -/
theorem lowerFrom_prefix {before w : List Char} (noFinal : 'ς' ∉ lowerFrom before w)
    (noSmall : 'σ' ∉ lowerFrom before w) (t : List Char) :
    lowerFrom before w <+: lowerFrom before (w ++ t) := by
  induction w generalizing before with
  | nil => exact List.nil_prefix
  | cons c w step =>
    rw [lowerFrom, List.mem_append, not_or] at noFinal noSmall
    have more := step noFinal.2 noSmall.2
    have sigma : c ≠ 'Σ' := by
      rintro rfl
      rw [if_pos rfl, List.mem_singleton] at noFinal noSmall
      split at noFinal
      · exact noFinal.1 rfl
      · next small => exact noSmall.1 (if_neg small).symm
    simp only [List.cons_append, lowerFrom, if_neg sigma]
    exact List.prefix_append_right_inj _ |>.2 more

end SeqChart.Text
