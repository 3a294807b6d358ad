/-!
The kinds of arcs and blocks, each with the token that stands for it in a chart and its name.
-/

namespace SeqChart

/-- The classes of arcs. Each has kinds of its own. -/
inductive ArcClass where
  | message | box | empty | inline
deriving DecidableEq, Repr

namespace ArcClass

def all : List ArcClass := [message, box, empty, inline]

/-- The word for the class in plain data. -/
def tag : ArcClass → String
  | message => "message"
  | box => "box"
  | empty => "empty"
  | inline => "inline"

theorem mem_all (arcClass : ArcClass) : arcClass ∈ all := by cases arcClass <;> decide

def ofTag? (tag : String) : Option ArcClass := all.find? (·.tag == tag)

end ArcClass

/-- Arcs between two entities. -/
inductive ArcKind where
  | signal | signalBack | method | methodBack | returning | returningBack | callback | callbackBack
  | emphasised | emphasisedBack | lost | lostBack
  | signalBoth | methodBoth | returningBoth | callbackBoth | emphasisedBoth
  | line | doubleLine | dotted | doubleColon
deriving DecidableEq, Repr

namespace ArcKind

def all : List ArcKind :=
  [signal, signalBack, method, methodBack, returning, returningBack, callback, callbackBack,
    emphasised, emphasisedBack, lost, lostBack, signalBoth, methodBoth, returningBoth,
    callbackBoth, emphasisedBoth, line, doubleLine, dotted, doubleColon]

def token : ArcKind → String
  | signal => "->"
  | signalBack => "<-"
  | method => "=>"
  | methodBack => "<="
  | returning => ">>"
  | returningBack => "<<"
  | callback => "=>>"
  | callbackBack => "<<="
  | emphasised => ":>"
  | emphasisedBack => "<:"
  | lost => "-x"
  | lostBack => "x-"
  | signalBoth => "<->"
  | methodBoth => "<=>"
  | returningBoth => "<<>>"
  | callbackBoth => "<<=>>"
  | emphasisedBoth => "<:>"
  | line => "--"
  | doubleLine => "=="
  | dotted => ".."
  | doubleColon => "::"

def name : ArcKind → String
  | signal => "Signal"
  | signalBack => "SignalBack"
  | method => "Method"
  | methodBack => "MethodBack"
  | returning => "Return"
  | returningBack => "ReturnBack"
  | callback => "Callback"
  | callbackBack => "CallbackBack"
  | emphasised => "Emphasised"
  | emphasisedBack => "EmphasisedBack"
  | lost => "Lost"
  | lostBack => "LostBack"
  | signalBoth => "SignalBidir"
  | methodBoth => "MethodBidir"
  | returningBoth => "ReturnBidir"
  | callbackBoth => "CallbackBidir"
  | emphasisedBoth => "EmphasisedBidir"
  | line => "Line"
  | doubleLine => "DoubleLine"
  | dotted => "Dotted"
  | doubleColon => "DoubleColon"

/-- Longer tokens first, so that no token hides behind one that it starts with. -/
def longestFirst : List ArcKind :=
  [callbackBoth, returningBoth, callback, callbackBack, signalBoth, methodBoth, emphasisedBoth,
    signal, signalBack, method, methodBack, returning, returningBack, emphasised, emphasisedBack,
    lost, lostBack, line, doubleLine, dotted, doubleColon]

theorem mem_all (kind : ArcKind) : kind ∈ all := by cases kind <;> decide

theorem mem_longestFirst (kind : ArcKind) : kind ∈ longestFirst := by cases kind <;> decide

example : longestFirst.Pairwise fun a b => b.token.length ≤ a.token.length := by decide +kernel

example : longestFirst.length = all.length := rfl

def ofToken? (token : String) : Option ArcKind := all.find? (·.token == token)

def ofName? (name : String) : Option ArcKind := all.find? (·.name == name)

end ArcKind

/-- Boxes over one or more entities. -/
inductive BoxKind where
  | note | box | rbox | abox
deriving DecidableEq, Repr

namespace BoxKind

def all : List BoxKind := [note, box, rbox, abox]

def token : BoxKind → String
  | note => "note"
  | box => "box"
  | rbox => "rbox"
  | abox => "abox"

def name : BoxKind → String
  | note => "Note"
  | box => "Box"
  | rbox => "RBox"
  | abox => "ABox"

theorem mem_all (kind : BoxKind) : kind ∈ all := by cases kind <;> decide

def ofToken? (token : String) : Option BoxKind := all.find? (·.token == token)

def ofName? (name : String) : Option BoxKind := all.find? (·.name == name)

end BoxKind

/-- Arcs that join no entities and fill a row of their own. -/
inductive EmptyKind where
  | omitted | comment | spacer
deriving DecidableEq, Repr

namespace EmptyKind

def all : List EmptyKind := [omitted, comment, spacer]

def token : EmptyKind → String
  | omitted => "..."
  | comment => "---"
  | spacer => "|||"

def name : EmptyKind → String
  | omitted => "Omitted"
  | comment => "Comment"
  | spacer => "Spacer"

theorem mem_all (kind : EmptyKind) : kind ∈ all := by cases kind <;> decide

def ofToken? (token : String) : Option EmptyKind := all.find? (·.token == token)

def ofName? (name : String) : Option EmptyKind := all.find? (·.name == name)

end EmptyKind

/-- Inline expressions: blocks of rows under a heading. -/
inductive InlineKind where
  | alt | otherwise | opt | breaking | par | seq | strict | neg | critical | ignore | consider
  | assertion | loop | ref | exc
deriving DecidableEq, Repr

namespace InlineKind

def all : List InlineKind :=
  [alt, otherwise, opt, breaking, par, seq, strict, neg, critical, ignore, consider,
    assertion, loop, ref, exc]

def token : InlineKind → String
  | alt => "alt"
  | otherwise => "else"
  | opt => "opt"
  | breaking => "break"
  | par => "par"
  | seq => "seq"
  | strict => "strict"
  | neg => "neg"
  | critical => "critical"
  | ignore => "ignore"
  | consider => "consider"
  | assertion => "assert"
  | loop => "loop"
  | ref => "ref"
  | exc => "exc"

def name : InlineKind → String
  | alt => "Alt"
  | otherwise => "Else"
  | opt => "Opt"
  | breaking => "Break"
  | par => "Par"
  | seq => "Seq"
  | strict => "Strict"
  | neg => "Neg"
  | critical => "Critical"
  | ignore => "Ignore"
  | consider => "Consider"
  | assertion => "Assert"
  | loop => "Loop"
  | ref => "Ref"
  | exc => "Exc"

theorem mem_all (kind : InlineKind) : kind ∈ all := by cases kind <;> decide

def ofToken? (token : String) : Option InlineKind := all.find? (·.token == token)

def ofName? (name : String) : Option InlineKind := all.find? (·.name == name)

end InlineKind

/-- The languages that a chart is written in. -/
inductive Dialect where
  | xu | mscgen
deriving DecidableEq, Repr

namespace Dialect

def all : List Dialect := [xu, mscgen]

def token : Dialect → String
  | xu => "xu"
  | mscgen => "mscgen"

def name : Dialect → String
  | xu => "Xu"
  | mscgen => "Mscgen"

def standard : Dialect := xu

def ofToken? (token : String) : Option Dialect := all.find? (·.token == token)

def ofName? (name : String) : Option Dialect := all.find? (·.name == name)

end Dialect

end SeqChart
