/-!
Double precision numbers, held exactly: a whole mantissa times a power of two.
-/

namespace SeqChart

/-- A finite number is `mantissa * 2 ^ exponent`, the sign apart. -/
inductive Binary64 where
  | finite (negative : Bool) (mantissa : Nat) (exponent : Int)
  | infinite (negative : Bool)
deriving DecidableEq, Repr

namespace Binary64

/-- Two to the 52; smaller mantissas occur with the least exponent alone. -/
def leastMantissa : Nat := 0x10000000000000

def leastExponent : Int := -1074

def greatestExponent : Int := 971

/-- The nearest whole number to a quotient; a half goes to the even one. -/
def roundQuotient (num den : Nat) : Nat :=
  let whole := num / den
  let twice := 2 * (num % den)
  if den < twice ∨ (twice = den ∧ whole % 2 = 1) then whole + 1 else whole

/-- Numerator and denominator of `num / den * base ^ power`. -/
def scale (base : Nat) (num den : Nat) (power : Int) : Nat × Nat :=
  if power < 0 then (num, den * base.pow power.natAbs) else (num * base.pow power.natAbs, den)

/-- The power of two that a positive quotient reaches. -/
def binaryOrder (num den : Nat) : Int :=
  let guess : Int := (num.log2 : Int) - den.log2
  let (n, d) := scale 2 num den (-guess)
  if d ≤ n then guess else guess - 1

/-- The nearest number to a quotient. -/
def ofQuotient (negative : Bool) (num den : Nat) : Binary64 :=
  if num = 0 then .finite negative 0 leastExponent
  else
    let exponent := max leastExponent (binaryOrder num den - 52)
    let (n, d) := scale 2 num den (-exponent)
    let mantissa := roundQuotient n d
    let (mantissa, exponent) :=
      if mantissa = 2 * leastMantissa then (leastMantissa, exponent + 1) else (mantissa, exponent)
    if greatestExponent < exponent then .infinite negative
    else .finite negative mantissa exponent

/-- The nearest number to `digits * 10 ^ power`. Far outside the range the power is not formed. -/
def ofDecimal (negative : Bool) (digits : Nat) (power : Int) : Binary64 :=
  let order := power + (Nat.toDigits 10 digits).length
  if digits = 0 ∨ order < -400 then .finite negative 0 leastExponent
  else if 400 < order then .infinite negative
  else
    let (num, den) := scale 10 digits 1 power
    ofQuotient negative num den

/-- The value, when it is a whole number. -/
def toInt? : Binary64 → Option Int
  | .infinite _ => none
  | .finite negative mantissa exponent =>
    let (num, den) := scale 2 mantissa 1 exponent
    if num % den = 0 then
      some (if negative then -((num / den : Nat) : Int) else (num / den : Nat))
    else none

example : ofDecimal false 15 (-1) = .finite false 0x18000000000000 (-52) := by decide +kernel
example : (ofDecimal true 20 (-1)).toInt? = some (-2) := by decide +kernel

end Binary64

end SeqChart
