import CareerInsight.Validation.Field
import CareerInsight.Field.Value

/-!
# Repairing a payload into a record

`validate` reads a whole payload against a list of field specifications.
Every field constraint is applied in declaration order, each writing its
field; then every ordering group sorts its fields, so a group sees values
that are already in their bounds.  Keys of the payload that no constraint
names are ignored.

The repairs come in the same order: one for each field constraint whose
value changed, then one for each field that an ordering group moved.  A
group that names a missing or non-numeric field is skipped.  A moved integer
field stays an integer, truncated toward zero.
-/

namespace CareerInsight

/-- One correction: the field and why it changed. -/
structure Repair where
  field : String
  kind : RepairKind
  deriving Repr, DecidableEq, BEq

/-- A repaired record with every correction made while building it. -/
structure Validation where
  record : Record
  repairs : List Repair
  deriving Repr, BEq

namespace FieldSpec

open Payload in
/-- The field, value and correction that a field constraint gives for a
payload; none for an ordering group. -/
def repairField (spec : FieldSpec) (raw : Json.Fields) :
    Option (String × FieldValue × Option RepairKind) :=
  match spec with
  | numeric field min max default kind =>
    let input := raw.lookup field
    let n := clampNumeric input min max default
    let value := match kind with
      | .float => FieldValue.number n
      | .integer => FieldValue.integer n.roundHalfAway.toIntSat
    some (field, value, numericRepair input n)
  | choice field allowed default =>
    let input := raw.lookup field
    let label := chooseLabel input allowed default
    some (field, .label label, labelRepair input label)
  | text field fallback =>
    let input := raw.lookup field
    some (field, .text (keepText input fallback), textRepair input)
  | textList field maxItems =>
    let input := raw.lookup field
    some (field, .list (keepTextList input maxItems), textListRepair input maxItems)
  | cohortFloor field k =>
    let input := raw.lookup field
    some (field, .integer (enforceFloor input k), floorRepair input k)
  | nested field shape =>
    let input := raw.lookup field
    some (field, .nested (keepNested input shape), nestedRepair input shape)
  | ordering _ => none

end FieldSpec

namespace Record

/-- Writes one member of a sorted group: an integer field stays an integer,
truncated toward zero. -/
def placeSorted (r : Record) (field : String) (value : Float) : Record :=
  match r.get? field with
  | some (.integer _) => r.set field (.integer value.toIntSat)
  | _ => r.set field (.number value)

/-- Sorts the numeric fields of a group in the IEEE total order, writing and
reporting each field whose value changed; a group with a missing or
non-numeric member is left alone. -/
def reorder (r : Record) (fields : List String) : Record × List Repair :=
  match fields.mapM r.number? with
  | none => (r, [])
  | some values =>
    let moves := (fields.zip values).zip (Float.sortTotal values)
    moves.foldl (fun (acc : Record × List Repair) ((field, before), after) =>
      if before == after then acc
      else (acc.1.placeSorted field after, acc.2 ++ [⟨field, .reordered⟩])) (r, [])

end Record

/-- Applies one field constraint to a validation in progress. -/
def Validation.applyField (raw : Json.Fields) (v : Validation) (spec : FieldSpec) : Validation :=
  match spec.repairField raw with
  | none => v
  | some (field, value, repair) =>
    { record := v.record.set field value
      repairs := match repair with
        | some kind => v.repairs ++ [⟨field, kind⟩]
        | none => v.repairs }

/-- Applies one ordering group to a validation in progress. -/
def Validation.applyOrdering (v : Validation) (spec : FieldSpec) : Validation :=
  match spec with
  | .ordering fields =>
    let (record, repairs) := v.record.reorder fields
    { record, repairs := v.repairs ++ repairs }
  | _ => v

/-- Repairs a payload into a record of a domain: the field constraints in
order, then the ordering groups. -/
def validate (domain : Domain) (raw : Json.Fields) (specs : List FieldSpec) : Validation :=
  let fielded := specs.foldl (Validation.applyField raw) ⟨Record.empty domain, []⟩
  specs.foldl Validation.applyOrdering fielded

end CareerInsight
