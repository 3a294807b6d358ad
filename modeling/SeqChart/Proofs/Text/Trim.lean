import Mathlib.Data.List.DropRight
import SeqChart.Text.Blank
/-!
What is left of a text without the blanks at its end.
-/

namespace SeqChart.Text

theorem prefix_of_trimRight (s : List Char) : trimRight s <+: s := List.rdropWhile_prefix isBlank s

theorem trimRight_last (s : List Char) : ∀ c ∈ (trimRight s).getLast?, isBlank c = false := by
  intro c last
  have nonempty : trimRight s ≠ [] := by
    intro empty
    rw [empty] at last
    cases last
  have stops : ¬ isBlank ((trimRight s).getLast nonempty) = true :=
    List.rdropWhile_last_not isBlank s nonempty
  have same : (trimRight s).getLast nonempty = c := by
    rw [List.getLast?_eq_some_getLast nonempty] at last
    exact Option.some.inj last
  rw [← same]
  simpa using stops

/-- What does not end in a blank is kept at the start of a text. -/
theorem prefix_trimRight {start s : List Char} (stays : ∀ c ∈ start.getLast?, isBlank c = false)
    (starts : start <+: s) : start <+: trimRight s := by
  obtain ⟨r, rfl⟩ := starts
  have keeps : start.reverse.dropWhile isBlank = start.reverse := by
    cases reversed : start.reverse with
    | nil => rfl
    | cons c rest =>
      have last : start.getLast? = some c := by rw [← List.head?_reverse, reversed]; rfl
      rw [List.dropWhile_cons, if_neg (by simp [stays c last])]
  rw [trimRight, List.reverse_append, List.dropWhile_append]
  split
  · have whole : start = (start.reverse.dropWhile isBlank).reverse := by
      rw [keeps, List.reverse_reverse]
    exact whole ▸ List.prefix_refl start
  · rw [List.reverse_append, List.reverse_reverse]
    exact List.prefix_append _ _

theorem trimRight_eq_self {s : List Char} (stays : ∀ c ∈ s.getLast?, isBlank c = false) :
    trimRight s = s := by
  have kept := prefix_trimRight stays (List.prefix_refl s)
  exact (prefix_of_trimRight s).eq_of_length_le kept.length_le

end SeqChart.Text
