import CareerInsight.Field.Value
import CareerInsight.Validation.Field
import CareerInsight.Binary64.Text

/-!
# Composite scores

A composite is a fixed weighted sum over record fields, capped at a
ceiling, together with a category read off a table of tiers.  Composites
are always computed from the repaired record: a value the model reported
for a composite is never read, only compared afterwards
(`discardedComposites`).

* A signal reads one field onto the formula's scale `[0, scale]`: a number
  as it is, `scale` minus a number, or a label's level times the scale.
  The result is clamped to the scale, a missing value counting as `0`; a
  signal at the bottom of the scale is always `0.0`, never `-0.0`.
* `compose` sums `weight * value` from the left, starting at `-0.0`; a sum
  that is not finite gives `0`, and otherwise the sum is clamped to
  `[0, ceiling]`.  Clamping needs ordered bounds: `composeChecked` refuses
  a ceiling that is NaN or below zero (`BoundsFault`) whenever the sum is
  finite, and agrees with `compose` everywhere else.  Every built-in
  formula has a positive ceiling, so scoring a record uses `compose`;
  a formula from outside is evaluated with `evaluateChecked`.
* `Tiers.categorize` gives the label of the first tier whose bound the score
  does not exceed, and the catch-all label above every bound or for NaN.
-/

namespace CareerInsight

/-- Scores of the labels of a level field, on `[0, 1]`. -/
abbrev LevelTable := List (String × Float)

/-- The four demand labels. -/
def demandLabels : List String := ["low", "moderate", "high", "very_high"]

/-- The levels of the four demand labels. -/
def demandLevels : LevelTable := [("low", 0.2), ("moderate", 0.5), ("high", 0.75), ("very_high", 1.0)]

/-- The level of a label: the first entry that names it, and `0` for an
unknown label. -/
def levelScore (label : String) (table : LevelTable) : Float :=
  match table.find? (·.1 == label) with
  | some (_, score) => score
  | none => 0.0

/-- Where a component reads its value. -/
inductive Signal where
  /-- A numeric field already on the formula's scale. -/
  | field (name : String)
  /-- The scale minus a numeric field, for a field where lower is better. -/
  | inverted (name : String)
  /-- A label field through a level table, times the scale. -/
  | level (name : String) (table : LevelTable)
  deriving Repr, BEq

/-- The field a signal reads. -/
def Signal.source : Signal → String
  | .field f => f
  | .inverted f => f
  | .level f _ => f

/-- One weighted term of a composite. -/
structure Component where
  name : String
  weight : Float
  signal : Signal
  deriving Repr, BEq

/-- Upper bounds with their labels, in increasing order, and the label for
every score above them. -/
structure Tiers where
  bounds : List (Float × String)
  catchAll : String
  deriving Repr, BEq

namespace Tiers

/-- Every label of the table: the tiers in order, then the catch-all. -/
def labels (t : Tiers) : List String := t.bounds.map (·.2) ++ [t.catchAll]

/-- The label of the first tier whose bound is at least the score; the
catch-all when there is none. -/
def categorize (t : Tiers) (score : Float) : String :=
  match t.bounds.find? (fun (bound, _) => score ≤ bound) with
  | some (_, label) => label
  | none => t.catchAll

end Tiers

/-- A named composite: its components, scale, ceiling and category table. -/
structure CompositeFormula where
  /-- The field that holds the score. -/
  field : String
  /-- The top of every component's scale, `1` or `100`. -/
  scale : Float
  /-- The most the score may reach. -/
  ceiling : Float
  components : List Component
  tiers : Tiers
  /-- The field that holds the category label. -/
  categoryField : String
  deriving Repr, BEq

/-- One component as computed for a record. -/
structure ScoreComponent where
  name : String
  weight : Float
  value : Float
  deriving Repr, BEq

/-- A computed composite. -/
structure CompositeScore where
  field : String
  value : Float
  ceiling : Float
  categoryField : String
  category : String
  components : List ScoreComponent
  deriving Repr, BEq

/-- Bounds of a clamp that are out of order: the lower one above the upper,
or one of them NaN. -/
structure BoundsFault where
  lo : Float
  hi : Float
  deriving Repr, BEq

/-- The words for bounds out of order. -/
def BoundsFault.message (e : BoundsFault) : String :=
  "min > max, or either was NaN. min = " ++ e.lo.debugText ++ ", max = " ++ e.hi.debugText

/-- The sum of `weight * value` over the pairs, from the left, starting at `-0.0`. -/
def weightedSum (pairs : List (Float × Float)) : Float :=
  Float.sumFromNegZero (pairs.map fun (w, v) => w * v)

/-- A float raised to `0` if below it, then lowered to the ceiling if above it. -/
def clampScore (x ceiling : Float) : Float :=
  let raised := if x < 0.0 then 0.0 else x
  if raised > ceiling then ceiling else raised

/-- The weighted sum clamped to `[0, ceiling]`; a sum that is not finite
gives `0`.  A value inside the bounds, `-0.0` included, is kept. -/
def compose (pairs : List (Float × Float)) (ceiling : Float) : Float :=
  let sum := weightedSum pairs
  if sum.isFinite then clampScore sum ceiling else 0.0

/-- `compose`, refusing a ceiling that is NaN or below zero when the sum is
finite. -/
def composeChecked (pairs : List (Float × Float)) (ceiling : Float) : Except BoundsFault Float :=
  if (weightedSum pairs).isFinite && !(0.0 ≤ ceiling) then .error ⟨0.0, ceiling⟩
  else .ok (compose pairs ceiling)

namespace CompositeFormula

/-- A signal value moved onto `[0, scale]` by the clamp that validation
uses, `0` standing for a value that is not finite.  The clamp keeps a value
that ties with its lower bound, so `-0.0` would come through; a signal
carries no sign on its zero, and at the bottom of the scale it is `0.0`. -/
def onScale (scale x : Float) : Float :=
  let v := Payload.clampFloat x 0.0 scale 0.0
  if v == 0.0 then 0.0 else v

/-- The value of a signal for a record, on `[0, scale]`. -/
def signalValue (f : CompositeFormula) (r : Record) : Signal → Float
  | .field name => onScale f.scale ((r.number? name).getD 0.0)
  | .inverted name => onScale f.scale (f.scale - (r.number? name).getD f.scale)
  | .level name table =>
    let level := match r.label? name with
      | some l => levelScore l table
      | none => 0.0
    onScale f.scale (level * f.scale)

/-- The components as computed for a record. -/
def componentsOf (f : CompositeFormula) (r : Record) : List ScoreComponent :=
  f.components.map fun c => ⟨c.name, c.weight, f.signalValue r c.signal⟩

/-- The composite of a record built from its score. -/
def scoreOf (f : CompositeFormula) (components : List ScoreComponent) (value : Float) :
    CompositeScore :=
  { field := f.field, value, ceiling := f.ceiling, categoryField := f.categoryField,
    category := f.tiers.categorize value, components }

/-- The pairs of weight and value of computed components. -/
def pairsOf (components : List ScoreComponent) : List (Float × Float) :=
  components.map fun c => (c.weight, c.value)

/-- The composite of a record. -/
def evaluate (f : CompositeFormula) (r : Record) : CompositeScore :=
  let components := f.componentsOf r
  f.scoreOf components (compose (pairsOf components) f.ceiling)

/-- The composite of a record, refusing a ceiling out of order with `0`. -/
def evaluateChecked (f : CompositeFormula) (r : Record) : Except BoundsFault CompositeScore :=
  let components := f.componentsOf r
  (composeChecked (pairsOf components) f.ceiling).map (f.scoreOf components)

end CompositeFormula

/-- Every composite of a record, in the order of the formulas. -/
def scoreRecord (r : Record) (formulas : List CompositeFormula) : List CompositeScore :=
  formulas.map (·.evaluate r)

/-- A reported composite value or category that disagreed with the computed one. -/
structure DiscardedComposite where
  field : String
  reported : Json
  recomputed : Json
  deriving Repr, BEq

/-- The reported values of one composite that disagree with it: the score
unless it is a number within `1e-6` of the computed one, then the category
unless it is the same text. -/
def CompositeScore.disagreements (score : CompositeScore) (raw : Json.Fields) :
    List DiscardedComposite :=
  let ofScore := match raw.lookup score.field with
    | some reported =>
      let agrees := match reported.asFloat? with
        | some n => decide ((n - score.value).abs < 1e-6)
        | none => false
      if agrees then [] else [⟨score.field, reported, Json.ofFloat score.value⟩]
    | none => []
  let ofCategory := match raw.lookup score.categoryField with
    | some reported =>
      if reported.asString? == some score.category then []
      else [⟨score.categoryField, reported, .string score.category⟩]
    | none => []
  ofScore ++ ofCategory

/-- The reported composites and categories that disagree with the computed
ones, composite by composite. -/
def discardedComposites (raw : Json.Fields) (scores : List CompositeScore) : List DiscardedComposite :=
  scores.flatMap (·.disagreements raw)

end CareerInsight
