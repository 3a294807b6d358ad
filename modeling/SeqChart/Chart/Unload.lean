import SeqChart.Chart.Loose
/-!
Charts as plain data. What is empty is left out, but for the entities and rows.
-/

namespace SeqChart

/-- A member that is left out when there is nothing in it. -/
def listMember (name : String) (items : List Plain) : List (String × Plain) :=
  if items.isEmpty then [] else [(name, .list items)]

def attrsMember (attrs : Mapping Scalar Plain) : List (String × Plain) :=
  if attrs.isEmpty then [] else [("attrs", .object attrs.entries)]

/-- The known options that are set, by name. -/
def LooseOptions.known (options : LooseOptions) : List (String × Plain) :=
  options.settings.map fun
    | .text option value => (option.name, value.value)
    | .flag option value => (option.name, value.value)

/-- The known options that are set, and the others after them. -/
def LooseOptions.toPlain (options : LooseOptions) : Plain :=
  .record (Mapping.ofList (known options ++ options.extra.entries)).entries

def Entity.toPlain (entity : Entity Scalar Plain) : Plain :=
  .record (("name", entity.name) :: attrsMember entity.attrs ++
    listMember "comments" entity.comments)

namespace Arc

/-- The members that every arc has, with those for its ends. -/
def baseMembers (arc : Arc Scalar Plain) (kind : String) (ends : List (String × Plain))
    (attrs : Mapping Scalar Plain) : List (String × Plain) :=
  ("type", .text arc.arcClass.tag) :: ("kind", .text kind) :: ends ++ attrsMember attrs ++
    listMember "comments" arc.comments

mutual

def toPlain : Arc Scalar Plain → Plain
  | .message kind source target attrs comments =>
    .record (baseMembers (.message kind source target attrs comments) kind.token
      [("from", source), ("to", target)] attrs)
  | .box kind source target attrs comments =>
    .record (baseMembers (.box kind source target attrs comments) kind.token
      [("from", source), ("to", target)] attrs)
  | .empty kind attrs comments =>
    .record (baseMembers (.empty kind attrs comments) kind.token [] attrs)
  | .inline kind source target rows attrs comments =>
    .record (baseMembers (.inline kind source target rows attrs comments) kind.token
      [("from", source), ("to", target)] attrs ++ [("arcs", .list (rowsToPlain rows))])

def rowToPlain : List (Arc Scalar Plain) → List Plain
  | [] => []
  | arc :: rest => toPlain arc :: rowToPlain rest

def rowsToPlain : List (List (Arc Scalar Plain)) → List Plain
  | [] => []
  | row :: rest => .list (rowToPlain row) :: rowsToPlain rest

end

end Arc

/-- Plain data for a chart with these comments. -/
def Content.toPlain (content : LooseContent) (comments : List Plain) : Plain :=
  .record (listMember "comments" comments ++
    (if content.options.isEmpty then [] else [("options", LooseOptions.toPlain content.options)]) ++
    [("entities", .list (content.entities.map Entity.toPlain)),
      ("arcs", .list (Arc.rowsToPlain content.rows))])

def LooseChart.toPlain (chart : LooseChart) : Plain := chart.toContent.toPlain chart.comments

def Chart.toPlain (chart : Chart) : Plain := chart.loosen.toPlain

end SeqChart
