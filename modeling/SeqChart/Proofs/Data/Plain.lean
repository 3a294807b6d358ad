import SeqChart.Proofs.Data.Mapping
import SeqChart.Data.Plain
/-!
Equality by value of plain data is reflexive, also where an object repeats a key.
-/

namespace SeqChart

namespace Plain

mutual

theorem same_refl : ∀ data : Plain, same data data = true
  | .scalar value => (BEq.rfl : (value == value) = true)
  | .list items => by
    rw [same, sameItems_refl items]
  | .object members => by
    rw [same, Bool.and_eq_true, List.all_eq_true]
    exact ⟨sameMembers_refl [] members, fun entry there =>
      List.any_eq_true.2 ⟨entry, there, BEq.rfl⟩⟩

theorem sameItems_refl : ∀ items : List Plain, sameItems items items = true
  | [] => rfl
  | item :: rest => by
    rw [sameItems, same_refl item, sameItems_refl rest, Bool.and_self]

/-- The first member of its key is found again, and the others do not count. -/
theorem sameMembers_refl : ∀ before members : List (Scalar × Plain),
    sameMembers (before.map (·.1)).reverse members (before ++ members) = true
  | _, [] => rfl
  | before, (key, value) :: rest => by
    have later := sameMembers_refl (before ++ [(key, value)]) rest
    rw [List.map_append, List.reverse_append, List.append_assoc] at later
    rw [sameMembers, Bool.and_eq_true]
    refine ⟨?_, later⟩
    cases seen : (before.map (·.1)).reverse.any (· == key) with
    | true => rfl
    | false =>
      have fresh : before.find? (·.1 == key) = none := by
        simpa [List.find?_eq_none] using seen
      rw [List.find?_append, fresh, List.find?_cons, BEq.rfl]
      exact same_refl value

end

instance : ReflBEq Plain := ⟨same_refl _⟩

end Plain

instance : ReflBEq Present := ⟨Plain.same_refl _⟩

end SeqChart
