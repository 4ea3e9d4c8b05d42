import CareerInsight.Binary64.Shortest

/-!
# Writing binary64 numbers as text

Every written float here uses the shortest decimal digits of
`Binary64.Shortest`.  Three layouts differ only in where scientific
notation takes over and in whether an integer keeps a `.0`; each is one
`FloatLayout` value.

* `FloatLayout.json` is the number text of a JSON document: positional for
  leading-digit exponents from `-5` to `15` with a `.0` on integers
  (`50.0`, `0.00001`), and `1e+300`, `5e-324`, `1.8446744073709552e+19`
  outside that range.  The same text names a float found where a reader
  expected something else.
* `FloatLayout.debug` is the text of a value in a diagnostic message:
  positional from `-4` to `15` with a `.0` on integers (`0.0`, `-1.0`), and
  `1e-5`, `1e16` outside.
* `FloatLayout.display` is the text of a number in a user-facing message:
  always positional and without `.0` (`99`, `0.85`, `1000000000000000000000`).

The sign is written for every float whose sign bit is set, `-0.0` included.
NaN and the infinities are written `NaN`, `inf` and `-inf`; the JSON layout
is never asked for them, since a JSON document has no such numbers.
-/

namespace CareerInsight

/-- Where a written float switches to scientific notation and whether an
integer keeps a fraction digit. -/
structure FloatLayout where
  /-- The least leading-digit exponent written positionally, if any bound. -/
  positionalFrom : Option Int
  /-- The least leading-digit exponent written in scientific notation
  above the positional range, if any bound. -/
  scientificFrom : Option Int
  /-- Whether a positional integer is written with `.0`. -/
  pointZero : Bool
  /-- Whether a positive exponent is written with `+`. -/
  plusExponent : Bool

namespace FloatLayout

/-- The layout of numbers in JSON documents. -/
def json : FloatLayout := ⟨some (-5), some 16, true, true⟩

/-- The layout of numbers in diagnostic messages. -/
def debug : FloatLayout := ⟨some (-4), some 16, true, false⟩

/-- The layout of numbers in user-facing messages. -/
def display : FloatLayout := ⟨none, none, false, false⟩

/-- Whether a decimal whose leading digit has exponent `lead` is written
positionally.  Zero is always written positionally. -/
def positional (layout : FloatLayout) (lead : Int) : Bool :=
  (match layout.positionalFrom with
    | some lo => decide (lo ≤ lead)
    | none => true) &&
  (match layout.scientificFrom with
    | some hi => decide (lead < hi)
    | none => true)

end FloatLayout

namespace DecimalForm

/-- A run of `n` zero digits. -/
def zeros (n : Nat) : String := String.ofList (List.replicate n '0')

/-- The digits written positionally, with `.0` on an integer when asked. -/
def positionalText (d : DecimalForm) (pointZero : Bool) : String :=
  let ds := toString d.digits
  if 0 ≤ d.exponent then
    ds ++ zeros d.exponent.toNat ++ (if pointZero then ".0" else "")
  else
    let fractionLength := (-d.exponent).toNat
    if fractionLength < ds.length then
      String.ofList (ds.toList.take (ds.length - fractionLength)) ++ "." ++
        String.ofList (ds.toList.drop (ds.length - fractionLength))
    else
      "0." ++ zeros (fractionLength - ds.length) ++ ds

/-- The digits in scientific notation: the first digit, the others after a
point if there are any, then `e` and the exponent of the first digit, with
`+` before a positive exponent when asked. -/
def scientificText (d : DecimalForm) (plusExponent : Bool) : String :=
  let ds := (toString d.digits).toList
  let mantissa := match ds with
    | first :: rest@(_ :: _) => String.ofList (first :: '.' :: rest)
    | _ => String.ofList ds
  let lead := d.leadingExponent
  mantissa ++ "e" ++ (if lead < 0 then "-" ++ toString (-lead).toNat
    else (if plusExponent then "+" else "") ++ toString lead.toNat)

/-- The decimal written in a layout, without a sign. -/
def render (d : DecimalForm) (layout : FloatLayout) : String :=
  if d.digits = 0 ∨ layout.positional d.leadingExponent then d.positionalText layout.pointZero
  else d.scientificText layout.plusExponent

end DecimalForm

end CareerInsight

namespace Float

/-- The text of a float in a layout: the sign for a set sign bit, then the
shortest decimal digits; NaN and the infinities by name. -/
def writeIn (layout : CareerInsight.FloatLayout) (x : Float) : String :=
  if x.isNaN then "NaN"
  else if !x.isFinite then (if x.signBit then "-inf" else "inf")
  else (if x.signBit then "-" else "") ++ x.shortestDecimal.render layout

/-- The text of a float inside a JSON document. -/
def jsonText (x : Float) : String := x.writeIn CareerInsight.FloatLayout.json

/-- The text of a float in a diagnostic message. -/
def debugText (x : Float) : String := x.writeIn CareerInsight.FloatLayout.debug

/-- The text of a float in a user-facing message. -/
def displayText (x : Float) : String := x.writeIn CareerInsight.FloatLayout.display

end Float
