/-!
Control sequences of terminals: an escape character, a bracket, parameters, and a letter.
-/

namespace SeqChart.Text

def escapeChar : Char := '\x1b'

/-- A character between the bracket and the letter. -/
def isParameter (c : Char) : Bool := c.isDigit || c = ';' || c = '?'

/-- What follows the control sequence that a text starts with. -/
def afterSequence? : List Char → Option (List Char)
  | first :: '[' :: inside =>
    if first = escapeChar then
      match inside.dropWhile isParameter with
      | last :: rest => if last.isAlpha then some rest else none
      | [] => none
    else none
  | _ => none

theorem length_of_afterSequence? {s rest : List Char} (found : afterSequence? s = some rest) :
    rest.length < s.length := by
  unfold afterSequence? at found
  split at found
  · rename_i first inside
    split at found
    · split at found
      · rename_i last rest' ends
        have := (List.dropWhile_suffix (l := inside) isParameter).length_le
        rw [ends] at this
        split at found
        · cases found
          simp only [List.length_cons] at this ⊢
          omega
        · simp at found
      · simp at found
    · simp at found
  · simp at found

/-- The text less its control sequences. What is left is not looked at again, although it may hold
a sequence that was not there before. -/
def withoutSequences : List Char → List Char
  | [] => []
  | c :: rest =>
    match h : afterSequence? (c :: rest) with
    | some after =>
      have := length_of_afterSequence? h
      withoutSequences after
    | none => c :: withoutSequences rest
termination_by s => s.length
decreasing_by
  · exact this
  · exact Nat.lt_succ_self _

theorem withoutSequences_cons (c : Char) (rest : List Char) :
    withoutSequences (c :: rest) = match afterSequence? (c :: rest) with
      | some after => withoutSequences after
      | none => c :: withoutSequences rest := by
  rw [withoutSequences]
  split <;> simp [*]

example : withoutSequences "a\x1b[1;31mb\x1b[?25l".toList = ['a', 'b'] := by decide +kernel
example : withoutSequences "\x1b[\x1b[0mm".toList = ['\x1b', '[', 'm'] := by decide +kernel

end SeqChart.Text
