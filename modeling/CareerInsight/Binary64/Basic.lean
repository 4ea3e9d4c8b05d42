/-!
# Binary64 numbers: fields, order and conversions

`Float` is IEEE 754 binary64.  This module reads a float's fields off its
bit pattern and builds on them the few operations that the insight rules
need beyond core arithmetic.

* `Float.maxNum` and `Float.minNum` ignore a NaN second operand and
  otherwise keep the first operand only when it is strictly larger
  (smaller), so `(0.0).maxNum (-0.0)` is `-0.0`.  Clamping a value into a
  range is `lo.maxNum (x.minNum hi)`.
* `Float.clampChecked` is the checked clamp: it refuses a NaN bound and a
  lower bound above the upper one, and otherwise moves the value into the
  bounds, keeping `-0.0` where it already lies inside.
* `Float.roundHalfAway` rounds to the nearest integer, a half away from
  zero, and keeps the sign of zero.
* `Float.toIntSat` truncates toward zero into the signed 64-bit range and
  saturates at its ends; NaN goes to zero.
* `Float.totalKey` is an integer whose order is the IEEE total order, so a
  sort by it puts `-0.0` before `0.0` and a positive NaN last.

Every operation is computed on exact `Nat` and `Int` values read from the
bit pattern, so what it does can be read off its definition.  Nothing here
formats a float: `Binary64.Shortest` and `Binary64.Text` do that.
-/

namespace Float

/-! ## Fields of the bit pattern -/

/-- The bit pattern as a natural number below `2 ^ 64`. -/
def bitsNat (x : Float) : Nat := x.toBits.toNat

/-- Whether the sign bit is set: true for negative numbers, `-0.0`, `-inf`
and a NaN with its sign bit set. -/
def signBit (x : Float) : Bool := decide (Nat.pow 2 63 ≤ x.bitsNat)

/-- The eleven-bit biased exponent field. -/
def exponentField (x : Float) : Nat := x.bitsNat / Nat.pow 2 52 % Nat.pow 2 11

/-- The fifty-two-bit fraction field. -/
def fractionField (x : Float) : Nat := x.bitsNat % Nat.pow 2 52

/-- The integer significand of a finite float, with the hidden bit of a
normal number added: `|x| = x.significand * 2 ^ x.binaryExponent`. -/
def significand (x : Float) : Nat :=
  if x.exponentField = 0 then x.fractionField else x.fractionField + Nat.pow 2 52

/-- The power of two that scales `significand`; subnormal numbers share the
exponent of the smallest normal ones. -/
def binaryExponent (x : Float) : Int :=
  if x.exponentField = 0 then -1074 else (x.exponentField : Int) - 1075

/-- The magnitude of a finite float truncated toward zero. -/
def truncatedMagnitude (x : Float) : Nat :=
  if 0 ≤ x.binaryExponent then x.significand * Nat.pow 2 x.binaryExponent.toNat
  else x.significand / Nat.pow 2 (-x.binaryExponent).toNat

/-! ## Order -/

/-- The larger of two floats in the sense of a NaN-ignoring maximum: a NaN
second operand gives the first, and otherwise the first operand is kept
only when it is strictly greater, so a tie such as `0.0` against `-0.0`
gives the second. -/
def maxNum (a b : Float) : Float := if b.isNaN then a else if a > b then a else b

/-- The smaller of two floats, dual to `maxNum`: a NaN second operand gives
the first, and otherwise the first operand is kept only when it is
strictly smaller. -/
def minNum (a b : Float) : Float := if b.isNaN then a else if a < b then a else b

/-- Moves `x` into `[lo, hi]`.  The bounds must be ordered: a NaN bound or
`lo > hi` is refused with the pair of bounds.  A value inside the bounds,
`-0.0` included, is returned unchanged. -/
def clampChecked (x lo hi : Float) : Except (Float × Float) Float :=
  if lo ≤ hi then .ok (if x < lo then lo else if x > hi then hi else x)
  else .error (lo, hi)

/-- An integer key for the IEEE total order: the bit pattern for a float
with a clear sign bit, and minus one minus the magnitude bits otherwise. -/
def totalKey (x : Float) : Int :=
  if x.signBit then -1 - ((x.bitsNat - Nat.pow 2 63 : Nat) : Int) else x.bitsNat

/-- Sorts ascending in the IEEE total order.  Equal keys are equal bit
patterns, so the result does not depend on the stability of the sort. -/
def sortTotal (xs : List Float) : List Float :=
  xs.mergeSort fun a b => decide (a.totalKey ≤ b.totalKey)

/-! ## Rounding and conversion -/

/-- Rounds to the nearest integer, a half away from zero.  NaN, the
infinities and floats that are already integers are returned unchanged,
and a negative value that rounds to zero gives `-0.0`. -/
def roundHalfAway (x : Float) : Float :=
  if !x.isFinite then x
  else if 0 ≤ x.binaryExponent then x
  else
    let shift := (-x.binaryExponent).toNat
    let whole := x.significand / Nat.pow 2 shift
    let rest := x.significand % Nat.pow 2 shift
    let rounded := if Nat.pow 2 shift ≤ 2 * rest then whole + 1 else whole
    if x.signBit then -(Float.ofNat rounded) else Float.ofNat rounded

/-- The least value of a signed 64-bit integer. -/
def int64Min : Int := -(Nat.pow 2 63 : Nat)

/-- The greatest value of a signed 64-bit integer. -/
def int64Max : Int := (Nat.pow 2 63 - 1 : Nat)

/-- Truncates toward zero into `[-2^63, 2^63 - 1]`: values beyond either end
and the infinities saturate, and NaN gives zero. -/
def toIntSat (x : Float) : Int :=
  if x.isNaN then 0
  else if !x.isFinite then (if x.signBit then int64Min else int64Max)
  else
    let t : Int := if x.signBit then -(x.truncatedMagnitude : Int) else x.truncatedMagnitude
    max int64Min (min int64Max t)

/-- The sum of a list from left to right, starting at `-0.0` so that the
empty sum and a sum of negative zeros are `-0.0`. -/
def sumFromNegZero (xs : List Float) : Float := xs.foldl (· + ·) (-0.0)

end Float
