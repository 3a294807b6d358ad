import SeqChart.Reader.Layout
/-!
Lists of items with commas between them and a closing character. The comments after a comma belong
to the item that follows.
-/

namespace SeqChart.Reader

variable {α : Type}

/-- An item and what follows it: the comments before the next item, or nothing after the last one.
The closing character may be missing after an item that closes itself. -/
def listed (item : List String → Reader α) (close : Char) (closesItself : α → Bool)
    (before : List String) : Reader (α × Option (List String)) := do
  let a ← item before
  skipLayout
  if ← accept [close] then return (a, none)
  if ← accept [','] then
    let next ← comments
    return (a, some next)
  if closesItself a then return (a, none)
  fail (.expected (.separator close))

theorem advances_listed {item : List String → Reader α}
    (advances : ∀ before, Advances (item before)) (close : Char) (closesItself : α → Bool)
    (before : List String) :
    Advances (listed item close closesItself before) := by
  refine (advances before).bind fun a => leavesEnd_skipLayout.bind fun _ =>
    (leavesEnd_accept _).bind fun closed => ?_
  split
  · exact leavesEnd_pure _
  · refine (leavesEnd_accept _).bind fun goesOn => ?_
    split
    · exact LeavesEnd.bind leavesEnd_comments fun _ => leavesEnd_pure _
    · split
      · exact leavesEnd_pure _
      · exact (advances_fail _).leavesEnd

/-- One or more items up to the closing character. -/
def series (item : List String → Reader α) (advances : ∀ before, Advances (item before))
    (close : Char) (closesItself : α → Bool) (before : List String) : Reader (List α) :=
  chain (listed item close closesItself) (advances_listed advances close closesItself) before

theorem advances_series {item : List String → Reader α}
    (advances : ∀ before, Advances (item before)) (close : Char) (closesItself : α → Bool)
    (before : List String) :
    Advances (series item advances close closesItself before) :=
  advances_chain _ _ _

end SeqChart.Reader
