import SeqChart.Chart.Check
import SeqChart.Chart.Loose
import SeqChart.Log
import SeqChart.Writer.Text
/-!
Writing charts and trees. A tree is written when it passes the check, and only then.
-/

namespace SeqChart

inductive RenderError where
  | misfit (reason : Misfit)
  /-- A key among the unknown options is no text, so that they cannot be listed. -/
  | extraKeys

namespace Writer

/-- The options that the dialect does not know. -/
def droppedOptions (dialect : Dialect) (options : Options String Bool String) : List Note :=
  (options.settings.map Setting.name).filter (!dialect.options.contains ·) |>.map
    fun option => .droppedOption option.name

/-- The keys as texts, in order. -/
def extraNames? (keys : List Scalar) : Option (List String) :=
  let text? : Scalar → Option String
    | .text s => some s
    | _ => none
  (keys.mapM text?).map fun names => names.mergeSort fun a b => a ≤ b

def checkedText (style : Style) (checked : Checked) : Logged RenderError String := do
  Logged.note (droppedOptions style.dialect checked.chart.options)
  match extraNames? checked.extraKeys with
  | none => Logged.quiet (.error .extraKeys)
  | some [] => pure ()
  | some names => Logged.note [.droppedExtra names]
  return String.ofList (chartText style checked.chart)

end Writer

/-- The text of a tree that is a chart. -/
def Tree.render (tree : Tree) (style : Style := {}) (limit : Int := standardDepth) :
    Logged RenderError String := do
  let checked ← Logged.quiet ((tree.check limit).mapError .misfit)
  Writer.checkedText style checked

def Chart.render (chart : Chart) (style : Style := {}) (limit : Int := standardDepth) :
    Logged RenderError String :=
  chart.toTree.render style limit

end SeqChart
