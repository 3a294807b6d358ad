import SeqChart.Reader.Chart
import SeqChart.Chart.Load
/-!
Comparing a chart with what comes back when it was written down.
-/

namespace SeqChart

/-- What comes of reading again what was written. -/
inductive Again where
  | equal
  | different (chart : Chart)
  | fault (e : SyntaxError)

/-- Reads a text and compares the chart in it with another. -/
def Chart.again (chart : Chart) (text : String) (limit : Int) : Again :=
  match Chart.parse text limit with
  | .ok read => if read == chart then .equal else .different read
  | .error e => .fault e

/-- Whether the chart survives being written as plain data. -/
def Chart.survivesUnloading (chart : Chart) : Bool :=
  match LooseChart.load chart.toPlain with
  | .ok loaded => loaded == chart.loosen
  | .error _ => false

end SeqChart
