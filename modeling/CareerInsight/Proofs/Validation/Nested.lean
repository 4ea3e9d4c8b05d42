import Mathlib
import CareerInsight.Proofs.Validation.Revalidate

/-!
# The laws of a nested default

`Payload.keepNested` reads a payload value against a nested shape: an
object that conforms, every key of the shape holding a finite number or a
text that is not blank as its default says, keeps its values for the
shape's keys and loses the others; anything else is replaced wholesale by
the shape's defaults.  `NestedLaws` gathers what this promises, and
`keepNested_laws` proves it for every shape with distinct keys and usable
defaults.

The parts were proved where each is used: the keys in `Insight.Shape`, the
conformance in `Validation.Repair`, the report in `Validation.Changes`, and
the second reading in `Validation.Revalidate`.  Here they are joined with the
two laws that say what the kept object is: `lookup_keepNested_eq` reads a
conforming object through its keys, and `keepNested_eq_shapeDefault` gives
the defaults to everything else.

Distinct keys are needed: of two defaults for one key the later is kept, so
a shape `[("k", .text "a"), ("k", .number 1.0)]` has defaults that do not
conform to it.
-/

namespace CareerInsight

namespace Payload

/-- What reading a value against a nested shape promises. -/
structure NestedLaws (shape : NestedShape) : Prop where
  /-- The kept object has exactly the shape's keys. -/
  keys : ∀ input k, k ∈ (keepNested input shape).map (·.1) ↔ k ∈ shape.map (·.1)
  /-- Its keys ascend, so each comes once. -/
  ordered : ∀ input, Keyed.Ordered (keepNested input shape)
  /-- It conforms to the shape. -/
  fits : ∀ input, conforms (keepNested input shape) shape = true
  /-- A conforming object is restricted to the shape's keys. -/
  restrict : ∀ fields, conforms fields shape = true → ∀ k,
    Json.Fields.lookup (keepNested (some (.object fields)) shape) k =
      if k ∈ shape.map (·.1) then Json.Fields.lookup fields k else none
  /-- Anything but a conforming object gives the shape's defaults. -/
  default : ∀ input,
    (∀ fields, input = some (.object fields) → conforms fields shape = false) →
      keepNested input shape = shapeDefault shape
  /-- No repair is reported exactly for a conforming object. -/
  unreported : ∀ input, nestedRepair input shape = none ↔
    ∃ fields, input = some (.object fields) ∧ conforms fields shape = true
  /-- Reading the kept object again gives it back. -/
  idempotent : ∀ input, keepNested (some (.object (keepNested input shape))) shape =
    keepNested input shape

/-- A conforming object keeps the values of the shape's keys and no other
key. -/
theorem lookup_keepNested_eq {fields : Json.Fields} {shape : NestedShape}
    (hc : conforms fields shape = true) (k : String) :
    Json.Fields.lookup (keepNested (some (.object fields)) shape) k =
      if k ∈ shape.map (·.1) then Json.Fields.lookup fields k else none := by
  split
  · next hk =>
    obtain ⟨e, he, rfl⟩ := List.mem_map.1 hk
    exact lookup_keepNested hc e he
  · next hk => exact Keyed.lookup_eq_none fun h => hk ((mem_keys_keepNested _ shape k).1 h)

/-- A value that is no conforming object gives way to the defaults. -/
theorem keepNested_eq_shapeDefault {input : Option Json} {shape : NestedShape}
    (h : ∀ fields, input = some (.object fields) → conforms fields shape = false) :
    keepNested input shape = shapeDefault shape := by
  unfold keepNested
  split
  · next fields => rw [if_neg (by simp [h fields rfl])]
  · rfl

/-- For a shape with distinct keys whose defaults conform, reading a value
against it keeps every law of `NestedLaws`: exactly the shape's keys, in
order; conformance; the restriction of a conforming object and the defaults
for anything else; a repair reported exactly for the latter; and a second
reading that changes nothing. -/
theorem keepNested_laws {shape : NestedShape} (hkeys : (shape.map (·.1)).Nodup)
    (husable : ∀ entry ∈ shape, entry.2.Usable) : NestedLaws shape where
  keys input k := mem_keys_keepNested input shape k
  ordered input := ordered_keepNested input shape
  fits _ := conforms_keepNested hkeys husable
  restrict _ hc := lookup_keepNested_eq hc
  default _ h := keepNested_eq_shapeDefault h
  unreported _ := nestedRepair_eq_none_iff
  idempotent input := (keepNested_keepNested hkeys husable input).1

/- With a key given twice the later default wins, and the earlier one no
longer fits: the defaults do not conform to their own shape. -/
example : conforms (shapeDefault [("k", .text "a"), ("k", .number 1.0)])
    [("k", .text "a"), ("k", .number 1.0)] = false := by
  decide +kernel

/-- The shape of a practice plan: a focus area that is a text and a daily
number of minutes. -/
def planShape : NestedShape := [("focus_area", .text "Fundamentals"), ("daily_minutes", .number 30.0)]

/-- The laws hold for the practice plan. -/
theorem planShape_nestedLaws :
    (planShape.map (·.1)).Nodup ∧ (∀ entry ∈ planShape, entry.2.Usable) ∧
      NestedLaws planShape := by
  have hkeys : (planShape.map (·.1)).Nodup := by decide
  have husable : ∀ entry ∈ planShape, entry.2.Usable := by decide +kernel
  exact ⟨hkeys, husable, keepNested_laws hkeys husable⟩

/-- An object with one ill-typed key gives way to the plan's defaults as a
whole. -/
example : keepNested (some (.object [("daily_minutes", .string "lots"),
    ("focus_area", .string "System design")])) planShape = shapeDefault planShape := by
  rfl

end Payload

end CareerInsight
