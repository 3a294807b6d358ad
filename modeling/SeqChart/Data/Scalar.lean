import SeqChart.Number.Shortest
import SeqChart.Text.Literal
/-!
Single values: nothing, a truth value, a number or a text.

Two of them are equal by value: a truth value counts as 0 or 1, and a whole number is the same
number with and without a fraction part.
-/

namespace SeqChart

inductive Scalar where
  | null
  | bool (b : Bool)
  | int (n : Int)
  | float (x : Binary64)
  | text (s : String)
deriving Repr

namespace Scalar

/-- What equality by value looks at. -/
inductive Key where
  | null
  | whole (n : Int)
  | fraction (x : Binary64)
  | text (s : String)
deriving DecidableEq

def key : Scalar → Key
  | .null => .null
  | .bool b => .whole b.toInt
  | .int n => .whole n
  | .float x => match x.toInt? with
    | some n => .whole n
    | none => .fraction x
  | .text s => .text s

instance : BEq Scalar where
  beq a b := decide (a.key = b.key)

theorem beq_iff {a b : Scalar} : (a == b) = true ↔ a.key = b.key := by
  simp [BEq.beq]

instance : EquivBEq Scalar where
  rfl := by simp [beq_iff]
  symm h := beq_iff.2 (beq_iff.1 h).symm
  trans h h' := beq_iff.2 ((beq_iff.1 h).trans (beq_iff.1 h'))

/-- The value as a message shows it. -/
def shown : Scalar → String
  | .null => "None"
  | .bool b => if b then "True" else "False"
  | .int n => toString n
  | .float x => x.shown
  | .text s => Text.literal s

/-- As `shown`, but a text is left as it is. -/
def plainText : Scalar → String
  | .text s => s
  | other => other.shown

/-- What a message calls the type of the value. -/
def typeName : Scalar → String
  | .null => "NoneType"
  | .bool _ => "bool"
  | .int _ => "int"
  | .float _ => "float"
  | .text _ => "str"

/-- Whether the value counts as something: not nothing, zero, false or the empty text. -/
def isSet : Scalar → Bool
  | .null => false
  | .text s => !s.isEmpty
  | other => other != .int 0

example : Scalar.bool true == .float (.ofDecimal false 10 (-1)) := by decide +kernel
example : (Scalar.int 0 == .null) = false := by decide +kernel

end Scalar

end SeqChart
