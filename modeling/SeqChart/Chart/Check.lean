import SeqChart.Chart.Tree
/-!
Checking a tree. A tree that passes is a chart; one that does not is refused for the first thing
that is wrong with it, in the order chart comments, options, entities, rows.
-/

namespace SeqChart

/-- Where in a chart something is wrong. -/
inductive Place where
  | chart
  | entity (name : String)
  | arc (token : String)
deriving DecidableEq, Repr

def Place.text : Place → String
  | .chart => "chart"
  | .entity name => s!"entity '{name}'"
  | .arc token => s!"arc '{token}'"

/-- What makes a tree no chart. -/
inductive Misfit where
  | notChart (found : Tree)
  | comments (place : Place)
  | notOptions (found : Tree)
  | textOption (option : TextOption) (found : Tree)
  | flagOption (option : FlagOption) (found : Tree)
  | extraOptions
  | entities
  | notEntity (found : Tree)
  | entityName (found : Tree)
  | attributes (place : Place)
  | attribute (place : Place) (key : Scalar) (found : Tree)
  | tooDeep (limit : Int)
  | rows
  | row
  | notArc (found : Tree)
  | kind (arc found : Tree)
  | endpoint (place : Place) (found : Tree)

def Misfit.message : Misfit → String
  | .notChart found => s!"expected a Chart, got {found.typeName}"
  | .comments place => s!"{place.text}: comments must be a list of strings"
  | .notOptions found => s!"options must be an Options instance, got {found.typeName}"
  | .textOption option found => s!"option '{option.name}' must be a string, got {found.shown}"
  | .flagOption option found => s!"option '{option.name}' must be a boolean, got {found.shown}"
  | .extraOptions => "extra options must be a mapping"
  | .entities => "entities must be a list"
  | .notEntity found => s!"entities must be Entity instances, got {found.typeName}"
  | .entityName found => s!"entity name must be a non-empty string, got {found.shown}"
  | .attributes place => s!"{place.text}: attributes must be a mapping"
  | .attribute place key found =>
    s!"{place.text}: attribute {key.shown} must map a string to a string, got {found.shown}"
  | .tooDeep limit => s!"inline expressions nested deeper than {limit} levels"
  | .rows => "arcs must be a list of rows"
  | .row => "every arc row must be a non-empty list"
  | .notArc found => s!"not an arc: {found.shown}"
  | .kind arc found => s!"{arc.typeName} has invalid kind {found.shown}"
  | .endpoint place found =>
    s!"{place.text}: endpoints must be non-empty strings, got {found.shown}"

/-- A tree that passed: the chart, and the keys of the options that no dialect knows. -/
structure Checked where
  chart : Chart
  extraKeys : List Scalar

namespace Tree

def checkComments (place : Place) : Tree → Except Misfit (List String)
  | .list items =>
    match items.mapM text? with
    | some texts => .ok texts
    | none => .error (.comments place)
  | _ => .error (.comments place)

def checkEntries (place : Place) : List (Scalar × Tree) → Except Misfit (List (String × String))
  | [] => .ok []
  | (.text key, .scalar (.text value)) :: rest =>
    (checkEntries place rest).map ((key, value) :: ·)
  | (key, value) :: _ => .error (.attribute place key value)

def checkAttrs (place : Place) : Tree → Except Misfit (Mapping String String)
  | .mapping entries => (checkEntries place entries).map Mapping.ofList
  | _ => .error (.attributes place)

/-- An unset option is nothing. -/
def checkText (option : TextOption) : Tree → Except Misfit (Option String)
  | .scalar .null => .ok none
  | .scalar (.text s) => .ok (some s)
  | found => .error (.textOption option found)

def checkFlag (option : FlagOption) : Tree → Except Misfit (Option Bool)
  | .scalar .null => .ok none
  | .scalar (.bool b) => .ok (some b)
  | found => .error (.flagOption option found)

/-- The known options, and the keys of the others. -/
def checkOptions : Tree → Except Misfit (Options String Bool String × List Scalar)
  | .options hscale width arcgradient wordwraparcs wordwrapentities wordwrapboxes watermark extra =>
    do
    let hscale ← checkText .hscale hscale
    let width ← checkText .width width
    let arcgradient ← checkText .arcgradient arcgradient
    let watermark ← checkText .watermark watermark
    let wordwraparcs ← checkFlag .wordwraparcs wordwraparcs
    let wordwrapentities ← checkFlag .wordwrapentities wordwrapentities
    let wordwrapboxes ← checkFlag .wordwrapboxes wordwrapboxes
    match extra with
    | .mapping entries =>
      .ok ({ hscale, width, arcgradient, wordwraparcs, wordwrapentities, wordwrapboxes, watermark },
        entries.map (·.1))
    | _ => .error .extraOptions
  | found => .error (.notOptions found)

def checkEntity : Tree → Except Misfit (Entity String String)
  | .entity name attrs comments =>
    match name.text? with
    | none | some "" => .error (.entityName name)
    | some text => do
      let attrs ← checkAttrs (.entity text) attrs
      let comments ← checkComments (.entity text) comments
      .ok { name := text, attrs, comments }
  | found => .error (.notEntity found)

def checkEnd (place : Place) (found : Tree) : Except Misfit String :=
  match found.text? with
  | none | some "" => .error (.endpoint place found)
  | some text => .ok text

mutual

/-- `room` is how many levels of inline expressions may still be opened; rows below that are refused
whatever they are. -/
def checkRows (limit room : Int) : Tree → Except Misfit (Rows String String)
  | .list items => if room < 0 then .error (.tooDeep limit) else checkRowList limit room items
  | _ => if room < 0 then .error (.tooDeep limit) else .error .rows

def checkRowList (limit room : Int) : List Tree → Except Misfit (Rows String String)
  | [] => .ok []
  | row :: rest => do
    let arcs ← checkRow limit room row
    let more ← checkRowList limit room rest
    .ok (arcs :: more)

def checkRow (limit room : Int) : Tree → Except Misfit (List (Arc String String))
  | .list (arc :: rest) => do
    let first ← checkArc limit room arc
    let more ← checkArcList limit room rest
    .ok (first :: more)
  | _ => .error .row

def checkArcList (limit room : Int) : List Tree → Except Misfit (List (Arc String String))
  | [] => .ok []
  | arc :: rest => do
    let first ← checkArc limit room arc
    let more ← checkArcList limit room rest
    .ok (first :: more)

def checkArc (limit room : Int) : Tree → Except Misfit (Arc String String)
  | .message source target kind attrs comments =>
    match kind with
    | .member (.arc k) => do
      let place := Place.arc k.token
      let source ← checkEnd place source
      let target ← checkEnd place target
      let attrs ← checkAttrs place attrs
      let comments ← checkComments place comments
      .ok (.message k source target attrs comments)
    | _ => .error (.kind (.message source target kind attrs comments) kind)
  | .box source target kind attrs comments =>
    match kind with
    | .member (.box k) => do
      let place := Place.arc k.token
      let source ← checkEnd place source
      let target ← checkEnd place target
      let attrs ← checkAttrs place attrs
      let comments ← checkComments place comments
      .ok (.box k source target attrs comments)
    | _ => .error (.kind (.box source target kind attrs comments) kind)
  | .empty kind attrs comments =>
    match kind with
    | .member (.empty k) => do
      let place := Place.arc k.token
      let attrs ← checkAttrs place attrs
      let comments ← checkComments place comments
      .ok (.empty k attrs comments)
    | _ => .error (.kind (.empty kind attrs comments) kind)
  | .inline source target kind rows attrs comments =>
    match kind with
    | .member (.inline k) => do
      let place := Place.arc k.token
      let source ← checkEnd place source
      let target ← checkEnd place target
      let attrs ← checkAttrs place attrs
      let comments ← checkComments place comments
      let rows ← checkRows limit (room - 1) rows
      .ok (.inline k source target rows attrs comments)
    | _ => .error (.kind (.inline source target kind rows attrs comments) kind)
  | found => .error (.notArc found)

end

/-- The chart that a tree is, when inline expressions may nest `limit` levels deep. -/
def check (limit : Int) : Tree → Except Misfit Checked
  | .chart settings entities rows comments => do
    let comments ← checkComments .chart comments
    let (known, extraKeys) ← checkOptions settings
    let entities ← match entities with
      | .list items => items.mapM checkEntity
      | _ => .error .entities
    let rows ← checkRows limit limit rows
    .ok { chart := { options := known, entities, rows, comments }, extraKeys }
  | found => .error (.notChart found)

end Tree

end SeqChart
