/-!
# The shortest decimal text of a floating point number

A finite double is `m · 2^e` for natural `m`.  Every real between the two midpoints to its
neighbours rounds to it, and the midpoints themselves do exactly when `m` is even.  For one, two, up
to seventeen digits the two multiples of the digit unit next to the number are tried: the first
number of digits with a hit wins, of two hits the nearer, and of two equally near the one whose last
digit is even.  All comparisons are made in natural numbers.

Positional text is used while the decimal point stands at most sixteen places after the first digit
and at most three zeros precede it; otherwise the exponent is written with at least two digits.
-/

namespace RestartCheck.Decimal

/-- A finite double: the sign, and the magnitude as `mantissa · 2^exponent`. -/
structure Dyadic where
  negative : Bool
  mantissa : Nat
  exponent : Int
deriving DecidableEq, Repr

/-- The three kinds of doubles. -/
inductive Magnitude
  | finite (value : Dyadic)
  | infinite (negative : Bool)
  | notANumber
deriving DecidableEq, Repr

/-- Take a double apart by its bit fields. -/
def Magnitude.ofFloat (x : Float) : Magnitude :=
  let bits := x.toBits.toNat
  let negative : Bool := bits / Nat.pow 2 63 == 1
  let biased : Nat := bits / Nat.pow 2 52 % Nat.pow 2 11
  let fraction : Nat := bits % Nat.pow 2 52
  if biased = 2047 then
    if fraction = 0 then .infinite negative else .notANumber
  else if biased = 0 then
    .finite ⟨negative, fraction, -1074⟩
  else
    .finite ⟨negative, Nat.pow 2 52 + fraction, Int.ofNat biased - 1075⟩

/-- The number of decimal digits of a natural number; zero has none. -/
def digitCount (n : Nat) : Nat :=
  if n = 0 then 0 else (Nat.toDigits 10 n).length

/-- How many times `numerator / denominator` has to be multiplied by ten to reach one. -/
def leadingZeros (numerator denominator : Nat) : Nat → Nat
  | 0 => 0
  | fuel + 1 =>
    if denominator ≤ numerator then 0
    else leadingZeros (10 * numerator) denominator fuel + 1

/-- The `k` with `10^(k-1) ≤ numerator / denominator < 10^k`. -/
def decimalPoint (numerator denominator : Nat) : Int :=
  if denominator ≤ numerator then digitCount (numerator / denominator)
  else 1 - (leadingZeros numerator denominator 400 : Int)

/-- `base ^ exponent` as a numerator and a denominator. -/
def ratioPower (base : Nat) (exponent : Int) : Nat × Nat :=
  if 0 ≤ exponent then (Nat.pow base exponent.toNat, 1) else (1, Nat.pow base (-exponent).toNat)

/-- The quarter units of `mantissa · 2^exponent`: the lower midpoint, the number itself and the
upper midpoint.  Below a power of two the gap is half as wide, except at the smallest exponent. -/
def quarters (mantissa : Nat) (exponent : Int) : Nat × Nat × Nat :=
  let narrow := mantissa == Nat.pow 2 52 && exponent != -1074
  (4 * mantissa - (if narrow then 1 else 2), 4 * mantissa, 4 * mantissa + 2)

/-- The multiple of `10^place` next to the number that rounds to it, if there is one. -/
def nearestAt (mantissa : Nat) (exponent place : Int) : Option Nat :=
  let (low, middle, high) := quarters mantissa exponent
  let unit := ratioPower 2 (exponent - 2)
  let grid := ratioPower 10 place
  let scale := unit.1 * grid.2
  let step := unit.2 * grid.1
  let below := middle * scale / step
  let even := mantissa % 2 == 0
  let inside (c : Nat) : Bool :=
    if even then low * scale ≤ c * step && c * step ≤ high * scale
    else low * scale < c * step && c * step < high * scale
  let downward := middle * scale - below * step
  let upward := (below + 1) * step - middle * scale
  let above := below + 1
  match inside below, inside above with
  | true, true =>
    if downward < upward then some below
    else if upward < downward then some above
    else if below % 2 = 0 then some below else some above
  | true, false => some below
  | false, true => some above
  | false, false => none

/-- The first hit among the given numbers of digits, as digits and the place of the last one. -/
def firstHit (mantissa : Nat) (exponent point : Int) : List Nat → Nat × Int
  | [] => (mantissa, exponent)
  | digits :: more =>
    let place := point - digits
    match nearestAt mantissa exponent place with
    | some c => (c, place)
    | none => firstHit mantissa exponent point more

/-- Remove the zeros at the end of a number, moving its place. -/
def stripZeros (n : Nat) (place : Int) : Nat → Nat × Int
  | 0 => (n, place)
  | fuel + 1 => if n ≠ 0 ∧ n % 10 = 0 then stripZeros (n / 10) (place + 1) fuel else (n, place)

/-- The shortest digits `d` and place `p` such that `d · 10^p` rounds to the positive number. -/
def shortest (mantissa : Nat) (exponent : Int) : Nat × Int :=
  let unit := ratioPower 2 exponent
  let point := decimalPoint (mantissa * unit.1) unit.2
  let hit := firstHit mantissa exponent point (List.range' 1 17)
  stripZeros hit.1 hit.2 20

/-- Where positional text ends and how wide the exponent is at least. -/
structure Layout where
  leastPoint : Int
  greatestPoint : Int
  exponentWidth : Nat

/-- At most three zeros after the point, at most sixteen digits before it, and at least two digits
in the exponent. -/
def Layout.standard : Layout := ⟨-3, 16, 2⟩

/-- Write `digits · 10^place`. -/
def Layout.render (layout : Layout) (digits : Nat) (place : Int) : String :=
  let text := (Nat.toDigits 10 digits)
  let point := place + text.length
  if layout.leastPoint ≤ point ∧ point ≤ layout.greatestPoint then
    if point ≤ 0 then
      "0." ++ String.ofList (List.replicate (-point).toNat '0' ++ text)
    else if text.length ≤ point.toNat then
      String.ofList (text ++ List.replicate (point.toNat - text.length) '0') ++ ".0"
    else
      String.ofList (text.take point.toNat) ++ "." ++ String.ofList (text.drop point.toNat)
  else
    let power := point - 1
    let sign := if power < 0 then "-" else "+"
    let width := Nat.toDigits 10 power.natAbs
    let padded := List.replicate (layout.exponentWidth - width.length) '0' ++ width
    let fraction := text.drop 1
    String.ofList (text.take 1) ++ (if fraction.isEmpty then "" else "." ++ String.ofList fraction)
      ++ "e" ++ sign ++ String.ofList padded

/-- The text of a magnitude with a sign in front. -/
def signed (negative : Bool) (text : String) : String :=
  if negative then "-" ++ text else text

def floatText (x : Float) : String :=
  match Magnitude.ofFloat x with
  | .notANumber => "nan"
  | .infinite negative => signed negative "inf"
  | .finite value =>
    if value.mantissa = 0 then signed value.negative "0.0"
    else
      let (digits, place) := shortest value.mantissa value.exponent
      signed value.negative (Layout.standard.render digits place)

end RestartCheck.Decimal
