import SeqChart.Reader.Series
import SeqChart.Reader.Name
import SeqChart.Chart.Basic
/-!
The list of options at the head of a chart.
-/

namespace SeqChart

/-- What an option is set to by a value. The automatic width is no number, but stands for one. -/
def OptionName.setting (text : String) : OptionName → Except Cause (Setting String Bool)
  | .flag option =>
    let word := Text.lowerText text
    if trueWords.contains word then .ok (.flag option true)
    else if falseWords.contains word then .ok (.flag option false)
    else .error (.notBoolean option.name text)
  | .text option =>
    if option = .width ∧ Text.lowerText text = "auto" then .ok (.text option "auto")
    else if option.isNumeric && !isNumber text.toList then .error (.notNumber option.name text)
    else .ok (.text option text)

namespace Reader

/-- A keyword of the table, in any case. -/
def keyword? {α : Type} (token : α → String) (choices : List α) : Reader (Option α) := fun s =>
  let text := Text.lowerText (String.ofList (s.takeWhile Text.isWord))
  match choices.find? (token · == text) with
  | some a => .ok (some a, s.dropWhile Text.isWord)
  | none => .ok (none, s)

theorem leavesEnd_keyword? {α : Type} (token : α → String) (choices : List α) :
    LeavesEnd (keyword? token choices) := by
  intro s a r read
  unfold keyword? at read
  dsimp only at read
  split at read
  · obtain ⟨-, rfl⟩ := Prod.mk.inj (Except.ok.inj read)
    exact List.dropWhile_suffix _
  · obtain ⟨-, rfl⟩ := Prod.mk.inj (Except.ok.inj read)
    exact List.suffix_refl _

def setting : Reader (Setting String Bool) := do
  skipLayout
  let place ← get
  let key := String.ofList (← word)
  if key.isEmpty then fail (.expected .optionName)
  else match OptionName.ofName? (Text.lowerText key) with
    | none => failAt place (.unknownOption key)
    | some option =>
      expect "="
      skipLayout
      let place ← get
      let text ← value
      match option.setting text with
      | .ok setting => return setting
      | .error cause => failAt place cause

theorem advances_setting : Advances setting := by
  refine leavesEnd_skipLayout.bind_advances fun _ => leavesEnd_get.bind_advances fun place =>
    leavesEnd_word.bind_advances fun key => ?_
  dsimp only
  split
  · exact advances_fail _
  · split
    · exact advances_failAt _ _
    · refine (leavesEnd_expect _).bind_advances fun _ => leavesEnd_skipLayout.bind_advances fun _ =>
        leavesEnd_get.bind_advances fun place' => advances_value.bind fun text => ?_
      split
      · exact leavesEnd_pure _
      · exact (advances_failAt _ _).leavesEnd

/-- The options of a chart, up to the semicolon. -/
def options : Reader (Options String Bool String) := do
  let settings ← series (fun _ => setting) (fun _ => advances_setting) ';' (fun _ => false) []
  return Options.ofSettings settings

/-- Whether a list of options stands here: a word with an equals sign after it. -/
def atOption : Reader Bool := ahead do
  let key ← word
  if key.isEmpty then return false
  skipLayout
  accept ['=']

/-- The options of a chart, where a list of them stands here, and the comments before what follows;
else those that were there before. -/
def optionsPart (before : List String) : Reader (Options String Bool String × List String) := do
  if ← atOption then
    let options ← options
    let next ← comments
    return (options, next)
  else return ({}, before)

end Reader

end SeqChart
