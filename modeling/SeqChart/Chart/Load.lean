import SeqChart.Chart.Unload
/-!
Charts from plain data. The shape has to be right, but the single values are taken as they are. What
has the wrong shape is used as far as it can be: a text stands for the list of its characters, an
object for the list of its keys.
-/

namespace SeqChart

inductive LoadError where
  | unknownArc (tag : Scalar)
  | unknownKind (typeName : String) (found : Plain)
  /-- A member that has to be there is not. -/
  | missing (name : String)
  /-- A member is asked of something that has none. -/
  | noMembers
  /-- A value is used in a way that its type does not allow. -/
  | unsuitable
  /-- An entry of a mapping has other than two parts. -/
  | notAPair

def LoadError.message : LoadError → Option String
  | .unknownArc tag => some s!"Unknown arc type '{tag.plainText}'"
  | .unknownKind typeName found =>
    some s!"{(Tree.ofPlain found).shown} is not a valid {typeName}"
  | .missing name => some name
  | .noMembers | .unsuitable | .notAPair => none

namespace Plain

/-- The members of an object that is asked for one. -/
def members : Plain → Except LoadError (List (Scalar × Plain))
  | .object members => .ok members
  | _ => .error .noMembers

/-- The members of an object that has to have some. -/
def indexed : Plain → Except LoadError (List (Scalar × Plain))
  | .object members => .ok members
  | _ => .error .unsuitable

def need (name : String) (members : List (Scalar × Plain)) : Except LoadError Plain :=
  match member? name members with
  | some value => .ok value
  | none => .error (.missing name)

def elements (value : Plain) : Except LoadError (List Plain) :=
  match value.elements? with
  | some items => .ok items
  | none => .error .unsuitable

/-- The items of a list that may be absent. -/
def itemsAt (name : String) (members : List (Scalar × Plain)) : Except LoadError (List Plain) :=
  match member? name members with
  | some value => value.elements
  | none => .ok []

/-- An entry of a mapping that is given as a list. -/
def pair (item : Plain) : Except LoadError (Scalar × Plain) := do
  match ← item.elements with
  | [.scalar key, value] => .ok (key, value)
  | [_, _] => .error .unsuitable
  | _ => .error .notAPair

/-- A mapping, given as an object or by its entries. -/
def mapping : Plain → Except LoadError (Mapping Scalar Plain)
  | .object members => .ok (Mapping.ofList members)
  | other => do
    let items ← other.elements
    let entries ← items.mapM pair
    .ok (Mapping.ofList entries)

def attrsAt (members : List (Scalar × Plain)) : Except LoadError (Mapping Scalar Plain) :=
  match member? "attrs" members with
  | some value => value.mapping
  | none => .ok ∅

end Plain

namespace LooseOptions

/-- Sets an option by name, in any case; nothing unsets it. -/
def put (options : LooseOptions) (key : String) (value : Plain) : LooseOptions :=
  let name := Text.lowerText key
  match OptionName.ofName? name with
  | some (.text option) => options.setText option (Present.of? value)
  | some (.flag option) => options.setFlag option (Present.of? value)
  | none => { options with extra := options.extra.insert name value }

def load (data : Plain) : Except LoadError LooseOptions := do
  let members ← data.members
  members.foldlM (fun options (key, value) => match key with
    | .text key => .ok (put options key value)
    | _ => .error .noMembers) {}

end LooseOptions

def Entity.load (data : Plain) : Except LoadError (Entity Scalar Plain) := do
  let members ← data.indexed
  let name ← Plain.need "name" members
  let attrs ← Plain.attrsAt members
  let comments ← Plain.itemsAt "comments" members
  .ok { name, attrs, comments }

namespace Arc

def loadClass (members : List (Scalar × Plain)) : Except LoadError ArcClass := do
  match ← Plain.need "type" members with
  | .scalar (.text tag) =>
    match ArcClass.ofTag? tag with
    | some arcClass => .ok arcClass
    | none => .error (.unknownArc (.text tag))
  | .scalar other => .error (.unknownArc other)
  | _ => .error .unsuitable

/-- A kind by its token; `typeName` is the name of the set that it has to be in. -/
def loadKind {α : Type} (typeName : String) (ofToken? : String → Option α) (found : Plain) :
    Except LoadError α :=
  match found with
  | .scalar (.text token) =>
    match ofToken? token with
    | some kind => .ok kind
    | none => .error (.unknownKind typeName found)
  | _ => .error (.unknownKind typeName found)

/-- A kind, the attributes and the comments of an arc. -/
def loadHead {α : Type} (typeName : String) (ofToken? : String → Option α)
    (members : List (Scalar × Plain)) :
    Except LoadError (α × Mapping Scalar Plain × List Plain) := do
  let kind ← loadKind typeName ofToken? (← Plain.need "kind" members)
  let attrs ← Plain.attrsAt members
  let comments ← Plain.itemsAt "comments" members
  .ok (kind, attrs, comments)

def loadEnds (members : List (Scalar × Plain)) : Except LoadError (Plain × Plain) := do
  let source ← Plain.need "from" members
  let target ← Plain.need "to" members
  .ok (source, target)

/-- A row that is no list has no arcs in it, or none that can be read. -/
def loadBareRow : Scalar → Except LoadError (List (Arc Scalar Plain))
  | .text "" => .ok []
  | _ => .error .unsuitable

mutual

def load : Plain → Except LoadError (Arc Scalar Plain)
  | .object members => do
    match ← loadClass members with
    | .message =>
      let (kind, attrs, comments) ← loadHead "ArcKind" ArcKind.ofToken? members
      let (source, target) ← loadEnds members
      .ok (.message kind source target attrs comments)
    | .box =>
      let (kind, attrs, comments) ← loadHead "BoxKind" BoxKind.ofToken? members
      let (source, target) ← loadEnds members
      .ok (.box kind source target attrs comments)
    | .empty =>
      let (kind, attrs, comments) ← loadHead "EmptyKind" EmptyKind.ofToken? members
      .ok (.empty kind attrs comments)
    | .inline =>
      let (kind, attrs, comments) ← loadHead "InlineKind" InlineKind.ofToken? members
      let (source, target) ← loadEnds members
      let rows ← loadRowsAt members
      .ok (.inline kind source target rows attrs comments)
  | _ => .error .unsuitable

def loadRow : Plain → Except LoadError (List (Arc Scalar Plain))
  | .list items => loadArcs items
  | .object members => if members.isEmpty then .ok [] else .error .unsuitable
  | .scalar value => loadBareRow value

def loadArcs : List Plain → Except LoadError (List (Arc Scalar Plain))
  | [] => .ok []
  | item :: rest => do
    let arc ← load item
    let more ← loadArcs rest
    .ok (arc :: more)

def loadRows : Plain → Except LoadError (Rows Scalar Plain)
  | .list items => loadRowList items
  | .object members => members.mapM fun (key, _) => loadBareRow key
  | .scalar value => (loadBareRow value).map fun _ => []

def loadRowList : List Plain → Except LoadError (Rows Scalar Plain)
  | [] => .ok []
  | item :: rest => do
    let row ← loadRow item
    let more ← loadRowList rest
    .ok (row :: more)

/-- The rows that a member holds; none if it is absent. -/
def loadRowsAt : List (Scalar × Plain) → Except LoadError (Rows Scalar Plain)
  | [] => .ok []
  | (key, value) :: rest => if key == .text "arcs" then loadRows value else loadRowsAt rest

end

end Arc

def LooseChart.load (data : Plain) : Except LoadError LooseChart := do
  let members ← data.members
  let options ← match Plain.member? "options" members with
    | some value => LooseOptions.load value
    | none => .ok {}
  let entities ← (← Plain.itemsAt "entities" members).mapM Entity.load
  let rows ← Arc.loadRowsAt members
  let comments ← Plain.itemsAt "comments" members
  .ok { options, entities, rows, comments }

end SeqChart
