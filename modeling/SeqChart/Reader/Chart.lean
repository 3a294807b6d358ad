import SeqChart.Reader.Arc
/-!
Whole charts.
-/

namespace SeqChart

namespace Reader

/-- Entities and rows, up to the closing brace; `before` holds the comments before them. -/
def entitiesAndRows (limit : Int) (before : List String) :
    Reader (List (Entity String String) × Rows String String) := do
  let (entities, after) ← entitiesPart before
  let rows ← rows limit (inside limit limit.toNat) after
  return (entities, rows)

/-- What stands between the braces of a chart. -/
def content (limit : Int) (before : List String) :
    Reader (Content String String (Options String Bool String)) := do
  let (options, between) ← optionsPart before
  let (entities, rows) ← entitiesAndRows limit between
  return { options, entities, rows }

/-- A chart and nothing after it. Inline expressions may nest `limit` levels deep. -/
def chart (limit : Int) : Reader Chart := do
  let head ← comments
  let found ← keyword? (fun _ => "msc") [()]
  if found.isNone then fail (.expected (.token "msc"))
  else
    expect "\x7b"
    let before ← comments
    let content ← content limit before
    expect "\x7d"
    skipLayout
    let rest ← get
    if rest.isEmpty then return { content with comments := head }
    else fail (.expected .endOfInput)

end Reader

/-- Reads a chart, or reports what is wrong with its text. -/
def Chart.parse (source : String) (limit : Int := standardDepth) : Except SyntaxError Chart :=
  match Reader.chart limit source.toList with
  | .ok (chart, _) => .ok chart
  | .error fault => .error (fault.report source.toList)

example : ((Chart.parse "msc\x7ba->*;\x7d").map (·.toContent.nesting)).toOption = some 0 := by
  decide +kernel

end SeqChart
