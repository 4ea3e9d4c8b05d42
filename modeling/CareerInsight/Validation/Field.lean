import CareerInsight.Field.Spec
import CareerInsight.Json.Value
import CareerInsight.Text.Blank

/-!
# Repairing one payload value

Each function here reads one value of an untrusted payload against a field
constraint and always returns a value that meets it; an absent key, `null`,
a value of the wrong type or one outside the bounds gives way to a declared
default.  Beside each stands the classifier that names why the value had to
change, or says that it did not (`none`).

* `clampNumeric` moves a number into `[min, max]`; any other value gives the
  default.  A lower bound above the upper one wins.
* `chooseLabel` keeps a text that is exactly one of the allowed labels.
* `enforceFloor` rounds a number half away from zero and keeps it if it
  reaches the floor `k`; otherwise the result is `k`.
* `keepNested` keeps the shape's keys of an object that conforms to a
  shape, and otherwise gives the shape's defaults.
* `keepText` trims a text and cuts it to `maxTextChars` characters.
* `keepTextList` keeps the distinct non-blank trimmed texts of an array, in
  order, at most `maxItems` of them.
-/

namespace CareerInsight

/-- Why a field was corrected. -/
inductive RepairKind where
  | missing
  | wrongType
  | nonFinite
  | outOfRange
  | notAllowed
  | blank
  | reordered
  | belowFloor
  | malformedNested
  | truncated
  deriving Repr, DecidableEq, BEq

/-- The name of a repair kind in answers. -/
def RepairKind.name : RepairKind → String
  | .missing => "missing"
  | .wrongType => "wrong_type"
  | .nonFinite => "non_finite"
  | .outOfRange => "out_of_range"
  | .notAllowed => "not_allowed"
  | .blank => "blank"
  | .reordered => "reordered"
  | .belowFloor => "below_floor"
  | .malformedNested => "malformed_nested"
  | .truncated => "truncated"

/-- The most characters a text field keeps. -/
def maxTextChars : Nat := 2000

/-- The JSON form of a constant: a float, `null` if not finite, or a string. -/
def StaticValue.toJson : StaticValue → Json
  | .number x => Json.ofFloat x
  | .text s => .string s

namespace Payload

/-- A payload value read as a number: any JSON number is read as a float;
an absent value or `null` is missing, and any other value has the wrong type. -/
def number? : Option Json → Except RepairKind Float
  | none => .error .missing
  | some .null => .error .missing
  | some (.number n) => .ok n.toFloat
  | some _ => .error .wrongType

/-- A finite float moved into `[min, max]`; a NaN or infinite one gives the
default.  The lower bound is applied last, so it wins over the upper. -/
def clampFloat (value min max default : Float) : Float :=
  if value.isFinite then Float.maxNum min (Float.minNum value max) else default

/-- A payload number moved into `[min, max]`; any other value gives the default. -/
def clampNumeric (value : Option Json) (min max default : Float) : Float :=
  match number? value with
  | .ok n => clampFloat n min max default
  | .error _ => default

/-- A text that is exactly one of the allowed labels; otherwise the default. -/
def chooseLabel (value : Option Json) (allowed : List String) (default : String) : String :=
  match value with
  | some (.string s) => if allowed.contains s then s else default
  | _ => default

/-- A finite number rounded half away from zero, if that reaches the floor
`k`; otherwise `k`. -/
def enforceFloor (value : Option Json) (k : Int) : Int :=
  match number? value with
  | .ok n =>
    if n.isFinite && Float.ofInt k ≤ n.roundHalfAway then n.roundHalfAway.toIntSat else k
  | .error _ => k

/-- Whether a value fits a key's default: a finite number for a number, a
non-blank text for a text. -/
def fitsShape (value : Option Json) (expected : StaticValue) : Bool :=
  match value, expected with
  | some (.number n), .number _ => n.toFloat.isFinite
  | some (.string s), .text _ => !s.isBlank
  | _, _ => false

/-- Whether every key of the shape holds a value that fits its default. -/
def conforms (fields : Json.Fields) (shape : NestedShape) : Bool :=
  shape.all fun (key, expected) => fitsShape (fields.lookup key) expected

/-- The object of a shape's defaults; of two entries for one key the later wins. -/
def shapeDefault (shape : NestedShape) : Json.Fields :=
  Json.Fields.ofList (shape.map fun (key, v) => (key, v.toJson))

/-- The shape's keys of a conforming object, with their values as given;
otherwise the shape's defaults. -/
def keepNested (value : Option Json) (shape : NestedShape) : Json.Fields :=
  match value with
  | some (.object fields) =>
    if conforms fields shape then
      Json.Fields.ofList (shape.filterMap fun (key, _) => (fields.lookup key).map (key, ·))
    else shapeDefault shape
  | _ => shapeDefault shape

/-- A trimmed non-blank text cut to `maxTextChars` characters; otherwise the fallback. -/
def keepText (value : Option Json) (fallback : String) : String :=
  match value with
  | some (.string s) =>
    let t := s.trimUnicode
    if t.isEmpty then fallback else t.takeChars maxTextChars
  | _ => fallback

/-- Adds a trimmed text to the kept ones unless it is empty or already kept. -/
def keepItem (kept : List String) (item : Json) : List String :=
  match item with
  | .string s =>
    let t := s.trimUnicode
    if t.isEmpty || kept.contains t then kept else kept ++ [t]
  | _ => kept

/-- The distinct non-blank trimmed texts of an array, in order. -/
def usableItems (value : Option Json) : List String :=
  match value with
  | some (.array items) => items.foldl keepItem []
  | _ => []

/-- The usable items of an array, at most `maxItems` of them. -/
def keepTextList (value : Option Json) (maxItems : Nat) : List String :=
  (usableItems value).take maxItems

/-! ## Why a value changed -/

/-- A number that had to be replaced or moved into its bounds. -/
def numericRepair (value : Option Json) (clamped : Float) : Option RepairKind :=
  match number? value with
  | .error kind => some kind
  | .ok n => if !n.isFinite then some .nonFinite else if n == clamped then none else some .outOfRange

/-- A label that was missing, of the wrong type or not allowed. -/
def labelRepair (value : Option Json) (label : String) : Option RepairKind :=
  match value with
  | none => some .missing
  | some .null => some .missing
  | some (.string s) => if s == label then none else some .notAllowed
  | some _ => some .wrongType

/-- A group size that was not a number or fell below the floor. -/
def floorRepair (value : Option Json) (k : Int) : Option RepairKind :=
  match number? value with
  | .error kind => some kind
  | .ok n =>
    if !n.isFinite then some .nonFinite
    else if n.roundHalfAway < Float.ofInt k then some .belowFloor else none

/-- A nested object that was missing or did not conform. -/
def nestedRepair (value : Option Json) (shape : NestedShape) : Option RepairKind :=
  match value with
  | none => some .missing
  | some .null => some .missing
  | some (.object fields) => if conforms fields shape then none else some .malformedNested
  | some _ => some .malformedNested

/-- A text that was blank, too long, missing or of the wrong type. -/
def textRepair (value : Option Json) : Option RepairKind :=
  match value with
  | some (.string s) =>
    if s.isBlank then some .blank
    else if maxTextChars < s.trimUnicode.charCount then some .truncated else none
  | none => some .missing
  | some .null => some .missing
  | some _ => some .wrongType

/-- A text list that was missing, not an array, too long, or had items
that were dropped. -/
def textListRepair (value : Option Json) (maxItems : Nat) : Option RepairKind :=
  match value with
  | some (.array items) =>
    let usable := (usableItems value).length
    if maxItems < usable then some .truncated
    else if usable != items.length then some .wrongType else none
  | none => some .missing
  | some .null => some .missing
  | some _ => some .wrongType

end Payload

end CareerInsight
