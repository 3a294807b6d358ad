import SeqChart.Chart.Vocabulary
import SeqChart.Data.Plain
import SeqChart.Data.Mapping
/-!
Charts: options, entities, and rows of arcs between them.

A chart that was read holds texts and truth values. One that was loaded from plain data has the same
shape, but may hold any value where a text or a truth value belongs.
-/

namespace SeqChart

/-- An option that is set: texts are of type `τ`, flags of type `β`. -/
inductive Setting (τ β : Type) where
  | text (option : TextOption) (value : τ)
  | flag (option : FlagOption) (value : β)
deriving DecidableEq, Repr

def Setting.name {τ β : Type} : Setting τ β → OptionName
  | .text option _ => .text option
  | .flag option _ => .flag option

/-- The options of a chart; `extra` holds those that no dialect knows, with values of type `ξ`. -/
structure Options (τ β ξ : Type) where
  hscale : Option τ := none
  width : Option τ := none
  arcgradient : Option τ := none
  wordwraparcs : Option β := none
  wordwrapentities : Option β := none
  wordwrapboxes : Option β := none
  watermark : Option τ := none
  extra : Mapping String ξ := ∅
deriving DecidableEq, BEq, Repr

namespace Options

variable {τ β ξ : Type}

def text? (options : Options τ β ξ) : TextOption → Option τ
  | .hscale => options.hscale
  | .width => options.width
  | .arcgradient => options.arcgradient
  | .watermark => options.watermark

def flag? (options : Options τ β ξ) : FlagOption → Option β
  | .wordwraparcs => options.wordwraparcs
  | .wordwrapentities => options.wordwrapentities
  | .wordwrapboxes => options.wordwrapboxes

def setText (options : Options τ β ξ) (option : TextOption) (value : Option τ) : Options τ β ξ :=
  match option with
  | .hscale => { options with hscale := value }
  | .width => { options with width := value }
  | .arcgradient => { options with arcgradient := value }
  | .watermark => { options with watermark := value }

def setFlag (options : Options τ β ξ) (option : FlagOption) (value : Option β) : Options τ β ξ :=
  match option with
  | .wordwraparcs => { options with wordwraparcs := value }
  | .wordwrapentities => { options with wordwrapentities := value }
  | .wordwrapboxes => { options with wordwrapboxes := value }

/-- A later setting of an option replaces the earlier one. -/
def set (options : Options τ β ξ) : Setting τ β → Options τ β ξ
  | .text option value => options.setText option (some value)
  | .flag option value => options.setFlag option (some value)

def ofSettings (settings : List (Setting τ β)) : Options τ β ξ := settings.foldl set {}

/-- The known options that are set, in their usual order. -/
def settings (options : Options τ β ξ) : List (Setting τ β) :=
  OptionName.all.filterMap fun
    | .text option => (options.text? option).map (.text option)
    | .flag option => (options.flag? option).map (.flag option)

def isEmpty (options : Options τ β ξ) : Bool := options.settings.isEmpty && options.extra.isEmpty

/-- The same options with other values. -/
def map {τ' β' ξ' : Type} (f : τ → τ') (g : β → β') (h : ξ → ξ') (options : Options τ β ξ) :
    Options τ' β' ξ' where
  hscale := options.hscale.map f
  width := options.width.map f
  arcgradient := options.arcgradient.map f
  wordwraparcs := options.wordwraparcs.map g
  wordwrapentities := options.wordwrapentities.map g
  wordwrapboxes := options.wordwrapboxes.map g
  watermark := options.watermark.map f
  extra := options.extra.mapValues h

end Options

/-- An entity; attributes have keys of type `κ`. -/
structure Entity (κ τ : Type) [BEq κ] where
  name : τ
  attrs : Mapping κ τ := ∅
  comments : List τ := []
deriving Repr

instance {κ τ : Type} [BEq κ] [BEq τ] : BEq (Entity κ τ) where
  beq a b := a.name == b.name && a.attrs == b.attrs && a.comments == b.comments

/-- One arc of a row. An inline expression holds rows of its own. -/
inductive Arc (κ τ : Type) [BEq κ] where
  | message (kind : ArcKind) (source target : τ) (attrs : Mapping κ τ) (comments : List τ)
  | box (kind : BoxKind) (source target : τ) (attrs : Mapping κ τ) (comments : List τ)
  | empty (kind : EmptyKind) (attrs : Mapping κ τ) (comments : List τ)
  | inline (kind : InlineKind) (source target : τ) (rows : List (List (Arc κ τ)))
      (attrs : Mapping κ τ) (comments : List τ)
deriving Repr

/-- Arcs of one row stand side by side; the rows follow each other. -/
abbrev Rows (κ τ : Type) [BEq κ] := List (List (Arc κ τ))

/-- What a chart holds, its comments apart; the options are of type `ω`. -/
structure Content (κ τ ω : Type) [BEq κ] where
  options : ω
  entities : List (Entity κ τ) := []
  rows : Rows κ τ := []

structure ChartOf (κ τ ω : Type) [BEq κ] extends Content κ τ ω where
  comments : List τ := []

/-- A chart as it is read and written. -/
abbrev Chart := ChartOf String String (Options String Bool String)

abbrev LooseOptions := Options Present Present Plain

abbrev LooseContent := Content Scalar Plain LooseOptions

/-- A chart with any value where a text or a truth value belongs. An option that is set to nothing
is not set. -/
abbrev LooseChart := ChartOf Scalar Plain LooseOptions

namespace Arc

variable {κ τ : Type} [BEq κ]

def arcClass : Arc κ τ → ArcClass
  | .message .. => .message
  | .box .. => .box
  | .empty .. => .empty
  | .inline .. => .inline

def isInline (arc : Arc κ τ) : Bool := arc.arcClass = .inline

def comments : Arc κ τ → List τ
  | .message _ _ _ _ comments | .box _ _ _ _ comments | .empty _ _ comments
  | .inline _ _ _ _ _ comments => comments

mutual

/-- How many inline expressions are around the innermost rows of the arc. -/
def nesting : Arc κ τ → Nat
  | .inline _ _ _ rows _ _ => nestingOfRows rows + 1
  | _ => 0

def nestingOfRow : List (Arc κ τ) → Nat
  | [] => 0
  | arc :: rest => max arc.nesting (nestingOfRow rest)

def nestingOfRows : List (List (Arc κ τ)) → Nat
  | [] => 0
  | row :: rest => max (nestingOfRow row) (nestingOfRows rest)

end

mutual

/-- Equality, but for the order of attributes. -/
def same [BEq τ] : Arc κ τ → Arc κ τ → Bool
  | .message kind source target attrs comments, .message kind' source' target' attrs' comments' =>
    kind == kind' && source == source' && target == target' && attrs == attrs' &&
      comments == comments'
  | .box kind source target attrs comments, .box kind' source' target' attrs' comments' =>
    kind == kind' && source == source' && target == target' && attrs == attrs' &&
      comments == comments'
  | .empty kind attrs comments, .empty kind' attrs' comments' =>
    kind == kind' && attrs == attrs' && comments == comments'
  | .inline kind source target rows attrs comments,
      .inline kind' source' target' rows' attrs' comments' =>
    kind == kind' && source == source' && target == target' && sameRows rows rows' &&
      attrs == attrs' && comments == comments'
  | _, _ => false

def sameRow [BEq τ] : List (Arc κ τ) → List (Arc κ τ) → Bool
  | [], [] => true
  | arc :: rest, arc' :: rest' => same arc arc' && sameRow rest rest'
  | _, _ => false

def sameRows [BEq τ] : List (List (Arc κ τ)) → List (List (Arc κ τ)) → Bool
  | [], [] => true
  | row :: rest, row' :: rest' => sameRow row row' && sameRows rest rest'
  | _, _ => false

end

instance [BEq τ] : BEq (Arc κ τ) := ⟨same⟩

mutual

/-- For each message, in the order of the chart, whether `test` holds of its ends. -/
def messageEnds (test : τ → τ → Bool) : Arc κ τ → List Bool
  | .message _ source target _ _ => [test source target]
  | .inline _ _ _ rows _ _ => messageEndsOfRows test rows
  | _ => []

def messageEndsOfRow (test : τ → τ → Bool) : List (Arc κ τ) → List Bool
  | [] => []
  | arc :: rest => arc.messageEnds test ++ messageEndsOfRow test rest

def messageEndsOfRows (test : τ → τ → Bool) : List (List (Arc κ τ)) → List Bool
  | [] => []
  | row :: rest => messageEndsOfRow test row ++ messageEndsOfRows test rest

end

end Arc

namespace Content

variable {κ τ ω : Type} [BEq κ]

def entityNames (content : Content κ τ ω) : List τ := content.entities.map (·.name)

/-- The greatest number of inline expressions around a row. -/
def nesting (content : Content κ τ ω) : Nat := Arc.nestingOfRows content.rows

/-- For each message whether one of its ends is the broadcast name. -/
def broadcasts [BEq τ] (star : τ) (content : Content κ τ ω) : List Bool :=
  Arc.messageEndsOfRows (fun source target => star == source || star == target) content.rows

instance [BEq τ] [BEq ω] : BEq (Content κ τ ω) where
  beq a b := a.options == b.options && a.entities == b.entities && Arc.sameRows a.rows b.rows

end Content

instance {κ τ ω : Type} [BEq κ] [BEq τ] [BEq ω] : BEq (ChartOf κ τ ω) where
  beq a b := a.toContent == b.toContent && a.comments == b.comments

end SeqChart
