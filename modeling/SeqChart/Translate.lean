import SeqChart.Reader.Chart
import SeqChart.Writer.Render
/-!
Reading a chart and writing it again, in any dialect.
-/

namespace SeqChart

/-- A dialect name that is not known. -/
structure UnknownDialect where
  name : String
deriving DecidableEq, Repr

def UnknownDialect.message (e : UnknownDialect) : String :=
  s!"Unknown dialect '{e.name}'; use " ++ String.intercalate " or " (Dialect.all.map Dialect.token)

/-- The dialect of that name, in any case; without a name the standard one. -/
def Dialect.named : Option String → Except UnknownDialect Dialect
  | none => .ok standard
  | some name =>
    match ofToken? (Text.lowerText name) with
    | some dialect => .ok dialect
    | none => .error ⟨name⟩

/-- Reads a chart and notes how large it is. -/
def Chart.read (source : String) (limit : Int := standardDepth) : Logged SyntaxError Chart := do
  let chart ← Logged.quiet (Chart.parse source limit)
  Logged.note [.read chart.options.settings.length chart.entities.length chart.rows.length]
  return chart

inductive TranslateError where
  | dialect (e : UnknownDialect)
  | source (e : SyntaxError)
  | render (e : RenderError)

/-- Reads a chart and writes it in the dialect of that name. -/
def translate (source : String) (minify : Bool := false) (dialect : Option String := none) :
    Logged TranslateError String := do
  let dialect ← Logged.quiet ((Dialect.named dialect).mapError .dialect)
  let chart ← (Chart.read source).mapError .source
  (chart.render { minify, dialect }).mapError .render

end SeqChart
