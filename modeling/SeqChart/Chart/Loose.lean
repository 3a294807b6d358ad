import SeqChart.Chart.Tree
/-!
A chart of texts seen as a chart of plain values.
-/

namespace SeqChart

/-- The same mapping with texts as single values. -/
def Mapping.loosen (m : Mapping String String) : Mapping Scalar Plain where
  entries := m.entries.map fun (key, value) => (.text key, .text value)
  apart := by
    rw [KeysApart, List.pairwise_map]
    refine m.apart.imp fun differs => ?_
    simpa [BEq.beq, Scalar.key] using differs

def Entity.loosen (entity : Entity String String) : Entity Scalar Plain where
  name := .text entity.name
  attrs := entity.attrs.loosen
  comments := entity.comments.map .text

namespace Arc

mutual

def loosen : Arc String String → Arc Scalar Plain
  | .message kind source target attrs comments =>
    .message kind (.text source) (.text target) attrs.loosen (comments.map .text)
  | .box kind source target attrs comments =>
    .box kind (.text source) (.text target) attrs.loosen (comments.map .text)
  | .empty kind attrs comments => .empty kind attrs.loosen (comments.map .text)
  | .inline kind source target rows attrs comments =>
    .inline kind (.text source) (.text target) (loosenRows rows) attrs.loosen (comments.map .text)

def loosenRow : List (Arc String String) → List (Arc Scalar Plain)
  | [] => []
  | arc :: rest => loosen arc :: loosenRow rest

def loosenRows : List (List (Arc String String)) → List (List (Arc Scalar Plain))
  | [] => []
  | row :: rest => loosenRow row :: loosenRows rest

end

end Arc

def Chart.loosen (chart : Chart) : LooseChart where
  options := chart.options.map .ofText .ofBool .text
  entities := chart.entities.map Entity.loosen
  rows := Arc.loosenRows chart.rows
  comments := chart.comments.map .text

def LooseChart.toTree (chart : LooseChart) : Tree :=
  Tree.ofContent chart.toContent (.list chart.comments)

def Chart.toTree (chart : Chart) : Tree := chart.loosen.toTree

end SeqChart
