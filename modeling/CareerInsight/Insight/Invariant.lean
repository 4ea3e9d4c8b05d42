import CareerInsight.Insight.Scored

/-!
# Record invariants

Repair and scoring make every invariant of a record hold by construction;
`ScoredRecord.check` checks them again where a record leaves the service,
and reports the first one that fails.  A failure there is a fault of the
service, never repaired.

The checks run in this order: the record's domain is the policy's; each
field constraint in declaration order (present, of the declared kind, in
bounds, allowed, non-blank, not too many items, at or above the floor,
conforming to its shape; an ordering group's members present and
non-decreasing); then each composite of the policy (present, a number at
least zero, at most the ceiling, within `1e-9` of the recomputed value,
and labelled with the category of its own value).
-/

namespace CareerInsight

/-- A broken record invariant. -/
inductive Violation where
  | domainMismatch (expected actual : Domain)
  | missingField (field : String)
  | wrongType (field : String)
  | outOfRange (field : String) (value min max : Float)
  | notAllowed (field : String) (value : String)
  | blankText (field : String)
  | tooManyItems (field : String) (length maxItems : Nat)
  | malformedNested (field : String)
  | unordered (fields : List String)
  | belowFloor (field : String) (value k : Int)
  | missingComposite (field : String)
  | compositeAboveCeiling (field : String) (value ceiling : Float)
  | compositeBelowZero (field : String) (value : Float)
  | compositeNotRecomputed (field : String) (value recomputed : Float)
  | categoryMismatch (field : String) (value expected : String)
  deriving Repr, BEq

/-- A text between double quotes with quotes, backslashes and line breaks
escaped, as names are shown in a diagnostic list. -/
def quoteName (s : String) : String :=
  "\"" ++ String.join (s.toList.map fun c =>
    if c = '"' then "\\\"" else if c = '\\' then "\\\\" else if c = '\n' then "\\n"
    else if c = '\r' then "\\r" else if c = '\t' then "\\t" else String.singleton c) ++ "\""

namespace Violation

/-- The name of the broken invariant. -/
def kind : Violation → String
  | domainMismatch .. => "DomainMismatch"
  | missingField .. => "MissingField"
  | wrongType .. => "WrongType"
  | outOfRange .. => "OutOfRange"
  | notAllowed .. => "NotAllowed"
  | blankText .. => "BlankText"
  | tooManyItems .. => "TooManyItems"
  | malformedNested .. => "MalformedNested"
  | unordered .. => "Unordered"
  | belowFloor .. => "BelowFloor"
  | missingComposite .. => "MissingComposite"
  | compositeAboveCeiling .. => "CompositeAboveCeiling"
  | compositeBelowZero .. => "CompositeBelowZero"
  | compositeNotRecomputed .. => "CompositeNotRecomputed"
  | categoryMismatch .. => "CategoryMismatch"

/-- The words for a broken invariant. -/
def message : Violation → String
  | domainMismatch expected actual =>
    "record belongs to " ++ actual.name ++ ", policy to " ++ expected.name
  | missingField f => "field '" ++ f ++ "' is missing"
  | wrongType f => "field '" ++ f ++ "' has the wrong type"
  | outOfRange f v lo hi =>
    "field '" ++ f ++ "' = " ++ v.displayText ++ " is outside [" ++ lo.displayText ++ ", " ++
      hi.displayText ++ "]"
  | notAllowed f v => "field '" ++ f ++ "' = '" ++ v ++ "' is not an allowed value"
  | blankText f => "text field '" ++ f ++ "' is blank"
  | tooManyItems f n m =>
    "list field '" ++ f ++ "' has " ++ toString n ++ " items, limit is " ++ toString m
  | malformedNested f => "nested field '" ++ f ++ "' does not match its shape"
  | unordered fs => "ordering group [" ++ ", ".intercalate (fs.map quoteName) ++ "] is not ascending"
  | belowFloor f v k => "field '" ++ f ++ "' = " ++ toString v ++ " is below floor " ++ toString k
  | missingComposite f => "composite '" ++ f ++ "' is missing"
  | compositeAboveCeiling f v c =>
    "composite '" ++ f ++ "' = " ++ v.displayText ++ " exceeds ceiling " ++ c.displayText
  | compositeBelowZero f v =>
    "composite '" ++ f ++ "' = " ++ v.displayText ++ " is negative or not a number"
  | compositeNotRecomputed f v r =>
    "composite '" ++ f ++ "' = " ++ v.displayText ++ " differs from recomputed " ++ r.displayText
  | categoryMismatch f v e =>
    "category '" ++ f ++ "' = '" ++ v ++ "' does not match score category '" ++ e ++ "'"

end Violation

namespace Record

/-- Whether adjacent values never descend. -/
def nonDecreasing : List Float → Bool
  | a :: b :: rest => !(a > b) && nonDecreasing (b :: rest)
  | _ => true

/-- The first field of a group that holds no number, or the group's values. -/
def groupValues (r : Record) : List String → Except Violation (List Float)
  | [] => .ok []
  | f :: rest =>
    match r.number? f with
    | some x => (groupValues r rest).map (x :: ·)
    | none => .error (.missingField f)

/-- Checks the value of a field against the constraint that owns it. -/
def checkValue (spec : FieldSpec) (field : String) (value : FieldValue) : Except Violation Unit :=
  match spec, value with
  | .numeric _ lo hi _ kind, .number x =>
    if kind != .float then .error (.wrongType field)
    else if lo ≤ x && x ≤ hi then .ok () else .error (.outOfRange field x lo hi)
  | .numeric _ lo hi _ kind, .integer i =>
    let x := Float.ofInt i
    if kind != .integer then .error (.wrongType field)
    else if lo ≤ x && x ≤ hi then .ok () else .error (.outOfRange field x lo hi)
  | .choice _ allowed _, .label l =>
    if allowed.contains l then .ok () else .error (.notAllowed field l)
  | .text .., .text t => if t.isBlank then .error (.blankText field) else .ok ()
  | .textList _ maxItems, .list items =>
    if maxItems < items.length then .error (.tooManyItems field items.length maxItems) else .ok ()
  | .cohortFloor _ k, .integer n => if n < k then .error (.belowFloor field n k) else .ok ()
  | .nested _ shape, .nested fields =>
    if Payload.conforms fields shape then .ok () else .error (.malformedNested field)
  | _, _ => .error (.wrongType field)

/-- Checks one field constraint, or one ordering group. -/
def checkSpec (r : Record) (spec : FieldSpec) : Except Violation Unit :=
  match spec with
  | .ordering fields => do
    let values ← r.groupValues fields
    if nonDecreasing values then .ok () else .error (.unordered fields)
  | _ =>
    match spec.owner? with
    | none => .ok ()
    | some field =>
      match r.get? field with
      | none => .error (.missingField field)
      | some value => checkValue spec field value

end Record

namespace ScoredRecord

/-- Checks one composite of a policy against the scored record. -/
def checkComposite (s : ScoredRecord) (formula : CompositeFormula) : Except Violation Unit :=
  match s.composite? formula.field with
  | none => .error (.missingComposite formula.field)
  | some score =>
    if score.value.isNaN || score.value < 0.0 then .error (.compositeBelowZero formula.field score.value)
    else if score.value > formula.ceiling then
      .error (.compositeAboveCeiling formula.field score.value formula.ceiling)
    else
      let recomputed := (formula.evaluate s.record).value
      if (recomputed - score.value).abs > 1e-9 then
        .error (.compositeNotRecomputed formula.field score.value recomputed)
      else
        let expected := formula.tiers.categorize score.value
        if score.category != expected then
          .error (.categoryMismatch formula.categoryField score.category expected)
        else .ok ()

/-- The first broken invariant of a scored record under a policy. -/
def check (s : ScoredRecord) (p : Policy) : Except Violation Unit := do
  if s.record.domain != p.domain then throw (.domainMismatch p.domain s.record.domain)
  p.fields.forM s.record.checkSpec
  p.composites.forM s.checkComposite

end ScoredRecord

end CareerInsight
