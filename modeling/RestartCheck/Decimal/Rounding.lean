import RestartCheck.Decimal.Shortest

/-!
# From decimals and integers to doubles

A decimal `digits · 10^exponent` is rounded to the nearest double.  Exponents far outside the range
of doubles are decided by size alone, so that no huge power is ever computed.
-/

namespace RestartCheck.Decimal

/-- The double with every exponent bit set and no fraction. -/
def infinity (negative : Bool) : Float :=
  Float.ofBits (if negative then 0xfff0000000000000 else 0x7ff0000000000000)

/-- The quiet double that is no number. -/
def notANumber : Float :=
  Float.ofBits 0x7ff8000000000000

/-- The double nearest to `digits · 10^exponent`, with a sign. -/
def toFloat (negative : Bool) (digits : Nat) (exponent : Int) : Float :=
  let size := exponent + digitCount digits
  let magnitude :=
    if digits = 0 ∨ size < -400 then 0.0
    else if 400 < size then infinity false
    else Float.ofScientific digits (decide (exponent < 0)) exponent.natAbs
  if negative then -magnitude else magnitude

/-- The double nearest to an integer. -/
def intToFloat (n : Int) : Float :=
  toFloat (decide (n < 0)) n.natAbs 0

/-- The double is exactly the integer. -/
def floatIsInt (x : Float) (n : Int) : Bool :=
  match Magnitude.ofFloat x with
  | .finite value =>
    let unit := ratioPower 2 value.exponent
    let magnitude : Int := value.mantissa * unit.1
    (if value.negative then -magnitude else magnitude) == n * unit.2
  | _ => false

/-- The integer that a double is, when it has no fraction. -/
def floatToInt? (x : Float) : Option Int :=
  match Magnitude.ofFloat x with
  | .finite value =>
    let unit := ratioPower 2 value.exponent
    let magnitude := value.mantissa * unit.1
    if magnitude % unit.2 = 0 then
      let n : Int := (magnitude / unit.2 : Nat)
      some (if value.negative then -n else n)
    else none
  | _ => none

end RestartCheck.Decimal
