import SeqChart.Chart.Basic
/-!
Trees put together by hand: every place of a chart may hold any value. They are checked before they
are written, and messages show them in full.
-/

namespace SeqChart

/-- A member of one of the closed sets of kinds. -/
inductive Member where
  | arc (kind : ArcKind)
  | box (kind : BoxKind)
  | empty (kind : EmptyKind)
  | inline (kind : InlineKind)
  | dialect (dialect : Dialect)
deriving DecidableEq, Repr

namespace Member

def typeName : Member → String
  | .arc _ => "ArcKind"
  | .box _ => "BoxKind"
  | .empty _ => "EmptyKind"
  | .inline _ => "InlineKind"
  | .dialect _ => "Dialect"

def name : Member → String
  | .arc kind => kind.name
  | .box kind => kind.name
  | .empty kind => kind.name
  | .inline kind => kind.name
  | .dialect d => d.name

def token : Member → String
  | .arc kind => kind.token
  | .box kind => kind.token
  | .empty kind => kind.token
  | .inline kind => kind.token
  | .dialect d => d.token

def shown (m : Member) : String := s!"<{m.typeName}.{m.name}: {Text.literal m.token}>"

/-- The member of that name in the set of that name. -/
def ofNames? (typeName name : String) : Option Member :=
  match typeName with
  | "ArcKind" => (ArcKind.ofName? name).map .arc
  | "BoxKind" => (BoxKind.ofName? name).map .box
  | "EmptyKind" => (EmptyKind.ofName? name).map .empty
  | "InlineKind" => (InlineKind.ofName? name).map .inline
  | "Dialect" => (Dialect.ofName? name).map .dialect
  | _ => none

/-- A member is found by the two names that messages show it with, and by no others. -/
theorem ofNames?_eq_some_iff {typeName name : String} {m : Member} :
    ofNames? typeName name = some m ↔ m.typeName = typeName ∧ m.name = name := by
  constructor
  · intro found
    unfold ofNames? at found
    split at found
    case h_6 => cases found
    all_goals
      obtain ⟨kind, sought, rfl⟩ := Option.map_eq_some_iff.1 found
      have named := List.find?_some sought
      exact ⟨rfl, beq_iff_eq.1 named⟩
  · rintro ⟨rfl, rfl⟩
    cases m with
    | arc kind => cases kind <;> rfl
    | box kind => cases kind <;> rfl
    | empty kind => cases kind <;> rfl
    | inline kind => cases kind <;> rfl
    | dialect d => cases d <;> rfl

end Member

inductive Tree where
  | scalar (value : Scalar)
  | list (items : List Tree)
  | mapping (entries : List (Scalar × Tree))
  | member (m : Member)
  | chart (options entities rows comments : Tree)
  | options (hscale width arcgradient wordwraparcs wordwrapentities wordwrapboxes watermark
      extra : Tree)
  | entity (name attrs comments : Tree)
  | message (source target kind attrs comments : Tree)
  | box (source target kind attrs comments : Tree)
  | empty (kind attrs comments : Tree)
  | inline (source target kind rows attrs comments : Tree)
deriving Repr

namespace Tree

abbrev null : Tree := .scalar .null
abbrev text (s : String) : Tree := .scalar (.text s)

/-- The options of a chart in which none is set. -/
def noOptions : Tree := .options null null null null null null null (.mapping [])

def text? : Tree → Option String
  | .scalar (.text s) => some s
  | _ => none

/-- What a message calls the type of a value. -/
def typeName : Tree → String
  | .scalar value => value.typeName
  | .list _ => "list"
  | .mapping _ => "dict"
  | .member m => m.typeName
  | .chart .. => "Chart"
  | .options .. => "Options"
  | .entity .. => "Entity"
  | .message .. => "Message"
  | .box .. => "Box"
  | .empty .. => "EmptyArc"
  | .inline .. => "InlineExpression"

/-- The fields of a node between round brackets. -/
def nodeText (name : String) (fields : List (String × String)) : String :=
  name ++ "(" ++ String.intercalate ", " (fields.map fun (field, text) => field ++ "=" ++ text) ++
    ")"

mutual

/-- A value as a message shows it. -/
def shown : Tree → String
  | .scalar value => value.shown
  | .list items => "[" ++ String.intercalate ", " (shownItems items) ++ "]"
  | .mapping entries => "\x7b" ++ String.intercalate ", " (shownEntries entries) ++ "\x7d"
  | .member m => m.shown
  | .chart settings entities rows comments =>
    nodeText "Chart" [("options", shown settings), ("entities", shown entities),
      ("arcs", shown rows), ("comments", shown comments)]
  | .options hscale width arcgradient wordwraparcs wordwrapentities wordwrapboxes watermark extra =>
    nodeText "Options" [("hscale", shown hscale), ("width", shown width),
      ("arcgradient", shown arcgradient), ("wordwraparcs", shown wordwraparcs),
      ("wordwrapentities", shown wordwrapentities), ("wordwrapboxes", shown wordwrapboxes),
      ("watermark", shown watermark), ("extra", shown extra)]
  | .entity name attrs comments =>
    nodeText "Entity" [("name", shown name), ("attrs", shown attrs), ("comments", shown comments)]
  | .message source target kind attrs comments =>
    nodeText "Message" [("from_id", shown source), ("to_id", shown target), ("kind", shown kind),
      ("attrs", shown attrs), ("comments", shown comments)]
  | .box source target kind attrs comments =>
    nodeText "Box" [("from_id", shown source), ("to_id", shown target), ("kind", shown kind),
      ("attrs", shown attrs), ("comments", shown comments)]
  | .empty kind attrs comments =>
    nodeText "EmptyArc" [("kind", shown kind), ("attrs", shown attrs), ("comments", shown comments)]
  | .inline source target kind rows attrs comments =>
    nodeText "InlineExpression" [("from_id", shown source), ("to_id", shown target),
      ("kind", shown kind), ("arcs", shown rows), ("attrs", shown attrs),
      ("comments", shown comments)]

def shownItems : List Tree → List String
  | [] => []
  | item :: rest => shown item :: shownItems rest

def shownEntries : List (Scalar × Tree) → List String
  | [] => []
  | (key, value) :: rest => (key.shown ++ ": " ++ shown value) :: shownEntries rest

end

mutual

/-- Plain data as a tree without nodes. -/
def ofPlain : Plain → Tree
  | .scalar value => .scalar value
  | .list items => .list (ofItems items)
  | .object members => .mapping (ofMembers members)

def ofItems : List Plain → List Tree
  | [] => []
  | item :: rest => ofPlain item :: ofItems rest

def ofMembers : List (Scalar × Plain) → List (Scalar × Tree)
  | [] => []
  | (key, value) :: rest => (key, ofPlain value) :: ofMembers rest

end

def ofAttrs (attrs : Mapping Scalar Plain) : Tree := .mapping (ofMembers attrs.entries)

def ofOptions (options : LooseOptions) : Tree :=
  let field (value : Option Present) := (value.map fun v => ofPlain v.value).getD null
  .options (field options.hscale) (field options.width) (field options.arcgradient)
    (field options.wordwraparcs) (field options.wordwrapentities) (field options.wordwrapboxes)
    (field options.watermark)
    (.mapping (options.extra.entries.map fun (key, value) => (.text key, ofPlain value)))

def ofEntity (entity : Entity Scalar Plain) : Tree :=
  .entity (ofPlain entity.name) (ofAttrs entity.attrs) (.list (ofItems entity.comments))

mutual

def ofArc : Arc Scalar Plain → Tree
  | .message kind source target attrs comments =>
    .message (ofPlain source) (ofPlain target) (.member (.arc kind)) (ofAttrs attrs)
      (.list (ofItems comments))
  | .box kind source target attrs comments =>
    .box (ofPlain source) (ofPlain target) (.member (.box kind)) (ofAttrs attrs)
      (.list (ofItems comments))
  | .empty kind attrs comments =>
    .empty (.member (.empty kind)) (ofAttrs attrs) (.list (ofItems comments))
  | .inline kind source target rows attrs comments =>
    .inline (ofPlain source) (ofPlain target) (.member (.inline kind)) (.list (ofRows rows))
      (ofAttrs attrs) (.list (ofItems comments))

def ofRow : List (Arc Scalar Plain) → List Tree
  | [] => []
  | arc :: rest => ofArc arc :: ofRow rest

def ofRows : List (List (Arc Scalar Plain)) → List Tree
  | [] => []
  | row :: rest => .list (ofRow row) :: ofRows rest

end

/-- The tree of a chart whose comments may be any value. -/
def ofContent (content : LooseContent) (comments : Plain) : Tree :=
  .chart (ofOptions content.options) (.list (content.entities.map ofEntity))
    (.list (ofRows content.rows)) (ofPlain comments)

end Tree

end SeqChart
