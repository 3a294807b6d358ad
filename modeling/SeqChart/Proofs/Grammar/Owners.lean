import SeqChart.Proofs.Grammar.Runs
import SeqChart.Proofs.Grammar.Syntax
/-!
Which comments belong to what. `Places` says so for the runs of a text and the entities and arcs of
a chart, one after the other: a run that stands where statements start leads to the next of them and
gives it its comments, unless a closing brace comes before it, and all other runs are lost.
-/

namespace SeqChart

/-! ## What comments belong to -/

namespace Arc

mutual

/-- The arcs inside an arc, in the order of the text. -/
def inside : Arc String String → List (Arc String String)
  | .inline _ _ _ rows _ _ => allOfRows rows
  | _ => []

def allOfRow : List (Arc String String) → List (Arc String String)
  | [] => []
  | arc :: rest => arc :: (inside arc ++ allOfRow rest)

def allOfRows : Rows String String → List (Arc String String)
  | [] => []
  | row :: rest => allOfRow row ++ allOfRows rest

end

end Arc

/-- What has comments of its own. -/
inductive Owner where
  | entity (entity : Entity String String)
  | arc (arc : Arc String String)

namespace Owner

def comments : Owner → List String
  | .entity e => e.comments
  | .arc a => a.comments

/-- The text of the owner starts here. -/
def StandsAt : Owner → List Char → Prop
  | .entity e, s => ∃ r, Grammar.EntityItem e.comments s e r
  | .arc a, s => ∃ levels r, Grammar.ArcItem (Grammar.Block levels) a.comments s a r

end Owner

/-- The entities and the arcs at all levels, in the order of the text. -/
def Chart.owners (chart : Chart) : List Owner :=
  chart.entities.map .entity ++ (Arc.allOfRows chart.rows).map .arc

namespace Grammar

/-! ## Where they start -/

/-- What may precede an entity, an arc, an option or an attribute other than the first. -/
def marks : List Char := ['\x7b', ',', ';', '\x7d']

/-- A value is set here: a word with an equals sign that starts no operator. -/
def Sets (s : List Char) : Prop :=
  ∃ word t u, Word s word t ∧ Gap t ('=' :: u) ∧ u.head? ≠ some '>' ∧ u.head? ≠ some '='

/-- Something starts here that is neither an option or an attribute nor the end of something. -/
def Opens (s : List Char) : Prop :=
  (∃ c r, s = c :: r ∧ c ∉ [',', ';', '\x7d']) ∧ ¬ Sets s

/-- The run stands where an entity or an arc starts. -/
def Run.Leads (run : Run) : Prop := run.before ∈ marks ∧ Opens run.rest

/-- The comments that go to what a run leads to. Between a closing brace and an arc there should be
a semicolon, and without one the comments are lost. -/
def kept (before : Char) (comments : List String) : List String :=
  if before = '\x7d' then [] else comments

/-- The runs that lead somewhere lead to the owners in turn. -/
inductive Places : List Run → List Owner → Prop
  | nil : Places [] []
  | lost {run : Run} {runs : List Run} {owners : List Owner} :
      ¬ run.Leads → Places runs owners → Places (run :: runs) owners
  | owned {run : Run} {runs : List Run} {owner : Owner} {owners : List Owner} :
      run.Leads → owner.StandsAt run.rest → owner.comments = kept run.before run.comments →
      Places runs owners → Places (run :: runs) (owner :: owners)

theorem Places.append {runs more : List Run} {owners others : List Owner}
    (first : Places runs owners) (second : Places more others) :
    Places (runs ++ more) (owners ++ others) := by
  induction first with
  | nil => exact second
  | lost other _ step => exact .lost other step
  | owned leads stands comments _ step => exact .owned leads stands comments step

end Grammar

end SeqChart
