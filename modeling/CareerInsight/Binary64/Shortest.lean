import CareerInsight.Binary64.Basic

/-!
# Shortest decimal digits of a binary64 number

A finite nonzero float `x` stands for every real that rounds to it: the
interval between the midpoints to its two neighbours, ends included
exactly when the significand is even (a tie rounds to the even one).  The
shortest decimal form of `x` is the decimal in that interval with the
fewest significant digits, and of two such decimals the one nearer to `x`.

`Float.shortestDecimal` finds it in exact `Nat` arithmetic.  For `n = 1, 2,
…` significant digits it looks at the decimal grid of step `10 ^ (E - n + 1)`,
where `10 ^ E ≤ |x| < 10 ^ (E + 1)`.  If some point of that grid lies in the
interval then so does one of the two grid points around `|x|`, so testing
those two points decides the grid.  Seventeen digits always suffice for
binary64, and the search stops there.

The result is a `DecimalForm`: digits without trailing zeros and the power
of ten of the last digit.  How such a form is written out is the business of
`Binary64.Text`.
-/

namespace CareerInsight

/-- A positive decimal `digits * 10 ^ exponent`. -/
structure DecimalForm where
  /-- The significant digits as a number. -/
  digits : Nat
  /-- The power of ten of the last digit. -/
  exponent : Int
  deriving Repr, DecidableEq

namespace DecimalForm

/-- The number of decimal digits of `n`, with `0` counted as one digit. -/
def digitCount (n : Nat) : Nat := (Nat.toDigits 10 n).length

/-- The same decimal with the trailing zeros of its digits removed. -/
def normalize (fuel : Nat) (d : DecimalForm) : DecimalForm :=
  match fuel with
  | 0 => d
  | fuel + 1 =>
    if d.digits ≠ 0 ∧ d.digits % 10 = 0 then
      normalize fuel ⟨d.digits / 10, d.exponent + 1⟩
    else d

/-- The power of ten of the leading digit. -/
def leadingExponent (d : DecimalForm) : Int := d.exponent + (digitCount d.digits : Int) - 1

end DecimalForm

/-- The interval of reals that round to a positive float, as numerators over
a common denominator.  `value`, `low` and `high` are the float and the two
midpoints to its neighbours; `closed` says whether the ends belong to it. -/
structure RoundingInterval where
  /-- The common denominator, a power of two. -/
  denominator : Nat
  /-- The numerator of the float itself. -/
  value : Nat
  /-- The numerator of the midpoint to the next smaller float. -/
  low : Nat
  /-- The numerator of the midpoint to the next larger float. -/
  high : Nat
  /-- Whether the two midpoints round to this float. -/
  closed : Bool

/-- The rounding interval of `|x|` for a finite nonzero `x`.  With
`|x| = m * 2 ^ q`, the numerators count units of `2 ^ (q - 2)`; the lower gap
is half as wide when `m` is the smallest significand of a binade above the
subnormal range. -/
def RoundingInterval.ofFloat (x : Float) : RoundingInterval :=
  let m := x.significand
  let q := x.binaryExponent
  let scale := if 2 ≤ q then Nat.pow 2 (q - 2).toNat else 1
  let den := if 2 ≤ q then 1 else Nat.pow 2 (2 - q).toNat
  let lowerGap := if m = Nat.pow 2 52 ∧ 1 < x.exponentField then 1 else 2
  { denominator := den
    value := 4 * m * scale
    low := (4 * m - lowerGap) * scale
    high := (4 * m + 2) * scale
    closed := m % 2 = 0 }

namespace RoundingInterval

/-- The exponent `E` with `10 ^ E ≤ value / denominator < 10 ^ (E + 1)`. -/
def leadingExponent (r : RoundingInterval) : Int :=
  if r.denominator ≤ r.value then (DecimalForm.digitCount (r.value / r.denominator) : Int) - 1
  else
    -- the number of places the point moves right before the value reaches 1
    let places := (List.range 400).find? (fun j => r.denominator ≤ r.value * Nat.pow 10 (j + 1))
    Int.negSucc (places.getD 399)

/-- The grid of step `10 ^ p` seen in units that make the grid points whole:
a grid point `k * 10 ^ p` lies at `k * weight` on the same scale as
`value`, `low` and `high` after these are multiplied by `lift`. -/
structure Grid where
  /-- Scale of one grid step. -/
  weight : Nat
  /-- Factor applied to the interval's numerators. -/
  lift : Nat

/-- The grid of step `10 ^ p` for the interval's denominator. -/
def grid (r : RoundingInterval) (p : Int) : Grid :=
  if 0 ≤ p then ⟨Nat.pow 10 p.toNat * r.denominator, 1⟩ else ⟨r.denominator, Nat.pow 10 (-p).toNat⟩

/-- Whether the grid point `k * 10 ^ p` lies in the interval. -/
def contains (r : RoundingInterval) (g : Grid) (k : Nat) : Bool :=
  let at_ := k * g.weight
  if r.closed then decide (r.low * g.lift ≤ at_ ∧ at_ ≤ r.high * g.lift)
  else decide (r.low * g.lift < at_ ∧ at_ < r.high * g.lift)

/-- The distance from the grid point `k * 10 ^ p` to the float, on the grid's scale. -/
def distance (r : RoundingInterval) (g : Grid) (k : Nat) : Nat :=
  let at_ := k * g.weight
  let v := r.value * g.lift
  if at_ ≤ v then v - at_ else at_ - v

/-- The grid point of step `10 ^ p` that lies in the interval, if one does:
of the two points around the float the nearer, and the even one on a tie. -/
def pointOnGrid (r : RoundingInterval) (p : Int) : Option Nat :=
  let g := r.grid p
  let below := r.value * g.lift / g.weight
  let above := below + 1
  match r.contains g below, r.contains g above with
  | true, true =>
    let db := r.distance g below
    let da := r.distance g above
    if db < da then some below
    else if da < db then some above
    else if below % 2 = 0 then some below else some above
  | true, false => some below
  | false, true => some above
  | false, false => none

/-- The first grid, by number of significant digits from `n` on, that has a
point in the interval; the seventeen-digit grid is the last one tried. -/
def search (r : RoundingInterval) (lead : Int) (n : Nat) (fuel : Nat) : DecimalForm :=
  let p := lead - (n : Int) + 1
  match fuel with
  | 0 => ⟨(r.pointOnGrid p).getD (r.value * (r.grid p).lift / (r.grid p).weight), p⟩
  | fuel + 1 =>
    match r.pointOnGrid p with
    | some k => ⟨k, p⟩
    | none => search r lead (n + 1) fuel

end RoundingInterval

end CareerInsight

namespace Float

/-- The shortest decimal form of `|x|` for a finite nonzero `x`; zero gives
`0 * 10 ^ 0`.  The digits have no trailing zeros. -/
def shortestDecimal (x : Float) : CareerInsight.DecimalForm :=
  if x.significand = 0 then ⟨0, 0⟩
  else
    let r := CareerInsight.RoundingInterval.ofFloat x
    (r.search r.leadingExponent 1 16).normalize 20

end Float
