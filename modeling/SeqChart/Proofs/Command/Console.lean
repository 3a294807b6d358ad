import SeqChart.Command.Console
import SeqChart.Proofs.Command.Arguments
import SeqChart.Proofs.Text.Control
/-!
What is asked of the library that a command takes its arguments and prints through:
`Console.Lawful`. Main statements: `standard_lawful`, that the standard one keeps to it, and
`printed_eq_self_iff`, that any such one prints a text as it is if and only if no control sequence
stands in it.
-/

namespace SeqChart.Command.Console

open Text (ControlSequence withoutSequences)

/-- Arguments that spell a request make it, unless they name an input that is not there or may not
be read. Of a text that is printed, control sequences are left out one after another. -/
structure Lawful (console : Console) : Prop where
  accepts : ∀ {disk : Disk} {arguments : List String} {request : Request},
    request.SpelledBy arguments → request.hasInput disk = true →
      console.request? disk arguments = some request
  refuses : ∀ {disk : Disk} {arguments : List String} {request : Request},
    request.SpelledBy arguments → request.hasInput disk = false →
      console.request? disk arguments = none
  prints : ∀ {s : List Char}, (∀ sequence, ControlSequence sequence → ¬ sequence <:+: s) →
    console.printed (String.ofList s) = String.ofList s
  leavesOut : ∀ {before sequence after : List Char}, ControlSequence sequence →
    (∀ other, ControlSequence other → ¬ other <:+: before) →
      console.printed (String.ofList (before ++ (sequence ++ after))) =
        String.ofList before ++ console.printed (String.ofList after)

theorem standard_lawful : standard.Lawful where
  accepts spelled present := by
    dsimp only [standard]
    rw [Request.ofArguments?_eq_some_iff.2 spelled]
    exact if_pos present
  refuses spelled absent := by
    dsimp only [standard]
    rw [Request.ofArguments?_eq_some_iff.2 spelled]
    exact if_neg (by rw [absent]; exact Bool.false_ne_true)
  prints none := by
    dsimp only [standard]
    rw [String.toList_ofList, Text.withoutSequences_eq_self_iff.2 none]
  leavesOut control first := by
    dsimp only [standard]
    rw [String.toList_ofList, String.toList_ofList, Text.withoutSequences_first control first,
      String.ofList_append]

variable {console : Console} (lawful : console.Lawful)
include lawful

/-- No two of them differ in what they print. -/
theorem Lawful.printed_ofList (s : List Char) :
    console.printed (String.ofList s) = String.ofList (withoutSequences s) := by
  -- The induction is on how much is left behind the first sequence.
  induction length : s.length using Nat.strongRecOn generalizing s with
  | ind n step =>
    by_cases found : ∃ sequence, ControlSequence sequence ∧ sequence <:+: s
    · obtain ⟨sequence, control, inside⟩ := found
      obtain ⟨before, sequence, after, control, rfl, first⟩ := Text.exists_first control inside
      have shorter : after.length < n := by
        cases control
        simp only [List.length_append, List.length_cons] at length
        omega
      rw [lawful.leavesOut control first, Text.withoutSequences_first control first,
        step _ shorter after rfl, String.ofList_append]
    · have none := fun sequence control inside => found ⟨sequence, control, inside⟩
      rw [lawful.prints none, Text.withoutSequences_eq_self_iff.2 none]

theorem Lawful.printed_eq_self_iff {text : String} : console.printed text = text ↔
    ∀ sequence, ControlSequence sequence → ¬ sequence <:+: text.toList := by
  rw [← Text.withoutSequences_eq_self_iff, ← String.toList_inj]
  conv_lhs => rw [← String.ofList_toList (s := text), lawful.printed_ofList]
  rw [String.toList_ofList, String.toList_ofList]

end SeqChart.Command.Console
