/-!
# Shortest decimals

A double-precision number stands for the whole interval of reals that round to it. It is written
with the fewest digits that still fall into that interval; among several such decimals the one
closest to the number wins, and of two equally close ones the larger. Everything after the bits
are taken apart is exact arithmetic on natural numbers, and the layout is positional throughout:
no exponent is ever written.
-/

namespace VoiceGrammar.Decimal

/-- A finite, non-negative double: `mantissa * 2 ^ exponent`. -/
structure Binary where
  mantissa : Nat
  exponent : Int
  /-- The next smaller double is only half as far away as the next larger one. -/
  narrowBelow : Bool
  deriving DecidableEq, Repr

/-- The decimal `coefficient * 10 ^ exponent`. -/
structure Scaled where
  coefficient : Nat
  exponent : Int
  deriving DecidableEq, Repr

/-- The double that the bits stand for, its sign left out. -/
def Binary.ofBits (bits : UInt64) : Binary :=
  let field : Nat := bits.toNat / Nat.pow 2 52 % Nat.pow 2 11
  let fraction : Nat := bits.toNat % Nat.pow 2 52
  if field = 0 then ⟨fraction, -1074, false⟩
  else ⟨Nat.pow 2 52 + fraction, (field : Int) - 1075, fraction = 0 && field > 1⟩

/-- The reals that round to a double, over a common denominator: the number itself, the ends of
the interval, and whether the ends belong to it. -/
structure Interval where
  low : Nat
  value : Nat
  high : Nat
  denominator : Nat
  closed : Bool
  deriving DecidableEq, Repr

/-- The interval of a double. The ends lie half way to the neighbours and belong to the interval
when the mantissa is even. -/
def Binary.interval (x : Binary) : Interval :=
  let up := Nat.pow 2 (x.exponent - 2).toNat
  { low := (4 * x.mantissa - if x.narrowBelow then 1 else 2) * up
    value := 4 * x.mantissa * up
    high := (4 * x.mantissa + 2) * up
    denominator := Nat.pow 2 (2 - x.exponent).toNat
    closed := x.mantissa % 2 = 0 }

/-- A decimal as a fraction: numerator and denominator. -/
def Scaled.fraction (d : Scaled) : Nat × Nat :=
  (d.coefficient * Nat.pow 10 d.exponent.toNat, Nat.pow 10 (-d.exponent).toNat)

def Interval.holds (i : Interval) (d : Scaled) : Bool :=
  let (top, bottom) := d.fraction
  let middle := top * i.denominator
  if i.closed then i.low * bottom ≤ middle && middle ≤ i.high * bottom
  else i.low * bottom < middle && middle < i.high * bottom

/-- The power of ten of the leading digit of a positive fraction. -/
def leadingExponent (top bottom : Nat) : Int :=
  if bottom ≤ top then ((Nat.toDigits 10 (top / bottom)).length : Int) - 1
  else -((Nat.toDigits 10 ((bottom - 1) / top)).length : Int)

/-- The neighbours of the number on the grid of the multiples of `10 ^ exponent`. -/
def Interval.neighbours (i : Interval) (exponent : Int) : Scaled × Scaled :=
  let below := i.value * Nat.pow 10 (-exponent).toNat / (i.denominator * Nat.pow 10 exponent.toNat)
  (⟨below, exponent⟩, ⟨below + 1, exponent⟩)

/-- Whether the number is strictly closer to the first of two decimals around it. -/
def Interval.closerToFirst (i : Interval) (first second : Scaled) : Bool :=
  let (top, bottom) := first.fraction
  let (top', bottom') := second.fraction
  2 * i.value * (bottom * bottom') < (top * bottom' + top' * bottom) * i.denominator

/-- The decimal of the grid that reads back as the number, if there is one. -/
def Interval.onGrid (i : Interval) (exponent : Int) : Option Scaled :=
  let (below, above) := i.neighbours exponent
  match i.holds below, i.holds above with
  | true, true => some (if i.closerToFirst below above then below else above)
  | true, false => some below
  | false, true => some above
  | false, false => none

/-- The shortest decimal of a double: grids are tried from one digit to seventeen, which always
suffice. -/
def shortest (x : Binary) : Scaled :=
  if x.mantissa = 0 then ⟨0, 0⟩
  else
    let i := x.interval
    let lead := leadingExponent i.value i.denominator
    let found := (List.range 17).findSome? fun (n : Nat) => i.onGrid (lead - (n : Int))
    found.getD (i.neighbours (lead - 16)).1

/-- The digits of a decimal with the point in its place, no point in an integer and no zeros at
the end of a fraction. -/
def Scaled.positional (d : Scaled) : List Char :=
  let places := (-d.exponent).toNat
  let digits := Nat.toDigits 10 (d.coefficient * Nat.pow 10 d.exponent.toNat)
  let padded := List.replicate (places + 1 - digits.length) '0' ++ digits
  let whole := padded.take (padded.length - places)
  let fraction := ((padded.drop (padded.length - places)).reverse.dropWhile (· == '0')).reverse
  if fraction.isEmpty then whole else whole ++ '.' :: fraction

/-- The text of a finite double that is not below zero. -/
def ofFloat (x : Float) : String :=
  String.ofList (shortest (Binary.ofBits x.toBits)).positional

example : ofFloat 0.1 = "0.1" := by decide +kernel
example : ofFloat (0.1 + 0.2) = "0.30000000000000004" := by decide +kernel
example : ofFloat 1e23 = "100000000000000000000000" := by decide +kernel
example : ofFloat 2.98023223876953125e-8 = "0.000000029802322387695313" := by decide +kernel

end VoiceGrammar.Decimal
