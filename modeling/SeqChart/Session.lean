import SeqChart.Chart.Load
import SeqChart.Translate
/-!
Work on one chart step by step: it is read or loaded, changed, written, and kept in named slots. A
step that fails leaves everything as it was.
-/

namespace SeqChart

/-- A chart in the making. Its comments may be any value. -/
structure Draft extends LooseContent where
  comments : Plain := .list []

namespace Draft

def ofChart (chart : LooseChart) : Draft := { chart with comments := .list chart.comments }

def toTree (draft : Draft) : Tree := Tree.ofContent draft.toContent draft.comments

/-- The draft as plain data; comments that are set are listed. -/
def toPlain (draft : Draft) : Except LoadError Plain := do
  let comments ← if draft.comments.isSet then draft.comments.elements else .ok []
  .ok (draft.toContent.toPlain comments)

/-- A copy that goes through plain data. -/
def copy (draft : Draft) : Except LoadError Draft := do
  let chart ← LooseChart.load (← draft.toPlain)
  .ok (ofChart chart)

instance : BEq Draft where
  beq a b := a.toContent == b.toContent && a.comments == b.comments

end Draft

structure Session where
  /-- How deep the inline expressions of a text that is read may nest. -/
  limit : Int := standardDepth
  draft : Draft := { options := {} }
  slots : Mapping String Draft := ∅

namespace Session

inductive Step where
  | parse (source : String)
  | load (data : Plain)
  | render (style : Style) (limit : Int)
  /-- Writes the chart and reads it again. -/
  | reparse (style : Style) (limit : Int)
  | validate (limit : Int)
  | options (data : Plain)
  | entity (data : Plain)
  | row (data : Plain)
  /-- Puts all rows into one inline expression. -/
  | nest (kind source target : Plain)
  | comments (data : Plain)
  | shown
  | save (slot : String)
  | restore (slot : String)
  | compare (slot : String)

inductive Answer where
  | chart (data : Plain)
  | text (text : String)
  | equal (equal : Bool)
  | valid
  | options (data : Plain) (empty : Bool)
  | names (names : List Plain)
  | rows (count : Nat)
  | comments (data : Plain)

inductive StepError where
  | source (e : SyntaxError)
  | render (e : RenderError)
  | load (e : LoadError)

def loading {α : Type} (outcome : Except LoadError α) : Except StepError α :=
  outcome.mapError .load

def slot (session : Session) (name : String) : Except StepError Draft :=
  match session.slots.get? name with
  | some draft => .ok draft
  | none => .error (.load (.missing name))

def draftText (session : Session) (style : Style) (limit : Int) : Except StepError String :=
  (session.draft.toTree.render style limit).outcome.mapError .render

/-- Makes a draft the current one and shows it. -/
def replace (session : Session) (draft : Draft) : Except StepError (Session × Answer) := do
  let data ← loading draft.toPlain
  .ok ({ session with draft }, .chart data)

/-- The session with other content in its draft. -/
def edit (session : Session) (content : LooseContent) : Session :=
  { session with draft := { session.draft with toContent := content } }

def readSource (session : Session) (source : String) : Except StepError Draft := do
  let chart ← (Chart.parse source session.limit).mapError .source
  .ok (.ofChart chart.loosen)

def step (session : Session) : Step → Except StepError (Session × Answer)
  | .parse source => do session.replace (← session.readSource source)
  | .load data => do
    let chart ← loading (LooseChart.load data)
    session.replace (.ofChart chart)
  | .render style limit => do
    let text ← session.draftText style limit
    .ok (session, .text text)
  | .reparse style limit => do
    let text ← session.draftText style limit
    let draft ← session.readSource text
    .ok ({ session with draft }, .equal (draft == session.draft))
  | .validate limit => do
    let _ ← (session.draft.toTree.check limit).mapError (.render ∘ .misfit)
    .ok (session, .valid)
  | .options data => do
    let options ← loading (LooseOptions.load data)
    .ok (session.edit { session.draft.toContent with options },
      .options (LooseOptions.toPlain options) options.isEmpty)
  | .entity data => do
    let entity ← loading (Entity.load data)
    let content := session.draft.toContent
    let content := { content with entities := content.entities ++ [entity] }
    .ok (session.edit content, .names content.entityNames)
  | .row data => do
    let row ← loading (Arc.loadRow data)
    let content := session.draft.toContent
    let content := { content with rows := content.rows ++ [row] }
    .ok (session.edit content, .rows content.rows.length)
  | .nest kind source target => do
    let kind ← loading (Arc.loadKind "InlineKind" InlineKind.ofToken? kind)
    let content := session.draft.toContent
    let content := { content with rows := [[.inline kind source target content.rows ∅ []]] }
    .ok (session.edit content, .rows content.rows.length)
  | .comments data => .ok ({ session with draft := { session.draft with comments := data } },
      .comments data)
  | .shown => do
    let data ← loading session.draft.toPlain
    .ok (session, .chart data)
  | .save name => do
    let copy ← loading session.draft.copy
    .ok ({ session with slots := session.slots.insert name copy }, .equal (copy == session.draft))
  | .restore name => do
    let draft ← session.slot name
    session.replace (← loading draft.copy)
  | .compare name => do
    let draft ← session.slot name
    .ok (session, .equal (session.draft == draft))

/-- The answers to a list of steps. -/
def run (session : Session) : List Step → List (Except StepError Answer)
  | [] => []
  | first :: rest =>
    match session.step first with
    | .ok (next, answer) => .ok answer :: run next rest
    | .error e => .error e :: run session rest

end Session

end SeqChart
