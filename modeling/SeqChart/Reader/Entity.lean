import SeqChart.Reader.Setting
/-!
Attributes between brackets, and the list of entities.
-/

namespace SeqChart.Reader

def assignment : Reader (String × String) := do
  skipLayout
  let place ← get
  let key := String.ofList (← word)
  if key.isEmpty then fail (.expected .attributeName)
  else match attributeName? key with
    | none => failAt place (.unknownAttribute key)
    | some name =>
      expect "="
      let text ← value
      return (name, text)

theorem advances_assignment : Advances assignment := by
  refine leavesEnd_skipLayout.bind_advances fun _ => leavesEnd_get.bind_advances fun place =>
    leavesEnd_word.bind_advances fun key => ?_
  dsimp only
  split
  · exact advances_fail _
  · split
    · exact advances_failAt _ _
    · exact (leavesEnd_expect _).bind_advances fun _ => advances_value.bind fun _ =>
        leavesEnd_pure _

/-- The attributes that stand here; none without an opening bracket. -/
def attributes : Reader (Mapping String String) := do
  skipLayout
  if ← accept ['['] then
    skipLayout
    if ← accept [']'] then return ∅
    let pairs ← series (fun _ => assignment) (fun _ => advances_assignment) ']' (fun _ => false) []
    return Mapping.ofList pairs
  else return ∅

theorem leavesEnd_attributes : LeavesEnd attributes := by
  refine leavesEnd_skipLayout.bind fun _ => (leavesEnd_accept _).bind fun opened => ?_
  split
  · refine leavesEnd_skipLayout.bind fun _ => (leavesEnd_accept _).bind fun closed => ?_
    split
    · exact leavesEnd_pure _
    · exact (advances_series _ _ _ _).leavesEnd.bind fun _ => leavesEnd_pure _
  · exact leavesEnd_pure _

def entity (before : List String) : Reader (Entity String String) := do
  let name ← name
  let attrs ← attributes
  return { name, attrs, comments := before }

theorem advances_entity (before : List String) : Advances (entity before) :=
  advances_name.bind fun _ => leavesEnd_attributes.bind fun _ => leavesEnd_pure _

/-- The entities of a chart, up to the semicolon; `before` holds the comments of the first. -/
def entities (before : List String) : Reader (List (Entity String String)) :=
  series entity advances_entity ';' (fun _ => false) before

/-- Whether a list of entities stands here and not an arc. Where no name can be read the text counts
as such a list, so that the fault of the name is reported. -/
def atEntity : Reader Bool := fun s =>
  let starts (token : String) := (after? token.toList s).isSome
  if s.isEmpty || starts "\x7d" || starts broadcast || EmptyKind.all.any (starts ·.token) then
    .ok (false, s)
  else
    match name s with
    | .error _ => .ok (true, s)
    | .ok (_, r) => (skipLayout r).map fun (_, r) => (r.head?.all [',', ';', '['].contains, s)

/-- The entities of a chart, where a list of them stands here, and the comments before what follows;
else those that were there before. -/
def entitiesPart (before : List String) : Reader (List (Entity String String) × List String) := do
  if ← atEntity then
    let entities ← entities before
    let next ← comments
    return (entities, next)
  else return ([], before)

end SeqChart.Reader
