import SeqChart.Number.Binary64
/-!
The shortest decimal that reads back as a given number, and the layout in which it is shown.
-/

namespace SeqChart

/-- `digits * 10 ^ power`. -/
structure Decimal where
  digits : Nat
  power : Int
deriving DecidableEq, Repr

namespace Binary64

/-- The power of ten that a positive quotient reaches. -/
def decimalOrder (num den : Nat) : Int :=
  let guess : Int :=
    ((Nat.toDigits 10 num).length : Int) - (Nat.toDigits 10 den).length
  let (n, d) := scale 10 num den (-guess)
  if d ≤ n then guess else guess - 1

/-- Whether a decimal rounds to `mantissa * 2 ^ exponent`. The gap below a power of two is half as
wide as the one above; the ends belong to an even mantissa. -/
def reads (mantissa : Nat) (exponent : Int) (candidate : Decimal) : Bool :=
  let below := if mantissa = leastMantissa ∧ leastExponent < exponent then 1 else 2
  let (n, d) := scale 10 candidate.digits 1 candidate.power
  let (n, d) := scale 2 n d (2 - exponent)
  let low := (4 * mantissa - below) * d
  let high := (4 * mantissa + 2) * d
  if mantissa % 2 = 0 then low ≤ n && n ≤ high else low < n && n < high

/-- The better of the two neighbours of the number on the grid of `10 ^ power`, if one
reads back. -/
def onGrid (mantissa : Nat) (exponent power : Int) : Option Decimal :=
  let (n, d) := scale 2 mantissa 1 exponent
  let (n, d) := scale 10 n d (-power)
  let near := roundQuotient n d
  let far := if near * d ≤ n then near + 1 else near - 1
  ([near, far].map (Decimal.mk · power)).find? (reads mantissa exponent)

/-- The first of the grids of 1 to 17 digits that has a decimal which reads back. -/
def shortest (mantissa : Nat) (exponent : Int) : Decimal :=
  let (n, d) := scale 2 mantissa 1 exponent
  let order := decimalOrder n d
  ((List.range 17).findSome? fun more : Nat => onGrid mantissa exponent (order - more)).getD ⟨0, 0⟩

end Binary64

/-- How a number is laid out: the orders of magnitude written without an exponent, and the least
number of digits of an exponent. -/
structure NumberLayout where
  least : Int
  greatest : Int
  exponentDigits : Nat

namespace NumberLayout

/-- The layout of messages: positional from 0.0001 up to below ten quadrillion. -/
def message : NumberLayout := ⟨-4, 15, 2⟩

def exponentText (layout : NumberLayout) (order : Int) : List Char :=
  let digits := Nat.toDigits 10 order.natAbs
  (if order < 0 then '-' else '+') ::
    (List.replicate (layout.exponentDigits - digits.length) '0' ++ digits)

/-- Positive decimals; a whole number keeps one zero after the point. -/
def decimalText (layout : NumberLayout) (value : Decimal) : List Char :=
  let all := Nat.toDigits 10 value.digits
  let digits := (all.reverse.dropWhile (· == '0')).reverse
  let order := value.power + all.length - 1
  if order < layout.least ∨ layout.greatest < order then
    let fraction := digits.drop 1
    digits.take 1 ++ (if fraction.isEmpty then [] else '.' :: fraction) ++
      'e' :: layout.exponentText order
  else if order < 0 then
    ['0', '.'] ++ List.replicate (order.natAbs - 1) '0' ++ digits
  else
    let whole := order.natAbs + 1
    let fraction := digits.drop whole
    digits.take whole ++ List.replicate (whole - digits.length) '0' ++
      '.' :: (if fraction.isEmpty then ['0'] else fraction)

/-- A number as text, the sign of zero included. -/
def text (layout : NumberLayout) : Binary64 → String
  | .infinite negative => if negative then "-inf" else "inf"
  | .finite negative mantissa exponent =>
    let digits :=
      if mantissa = 0 then ['0', '.', '0']
      else layout.decimalText (Binary64.shortest mantissa exponent)
    String.ofList (if negative then '-' :: digits else digits)

end NumberLayout

/-- A number as a message shows it. -/
def Binary64.shown (x : Binary64) : String := NumberLayout.message.text x

example : (Binary64.ofDecimal false 15 (-1)).shown = "1.5" := by decide +kernel
example : (Binary64.ofDecimal false 1 22).shown = "1e+22" := by decide +kernel
example : (Binary64.ofDecimal true 1 (-7)).shown = "-1e-07" := by decide +kernel
example : (Binary64.ofDecimal false 2 0).shown = "2.0" := by decide +kernel

end SeqChart
