import CareerInsight.Validation.Record
import CareerInsight.Policy.Builtin

/-!
# Scored records

A scored record is a repaired record with its composites, and whether it
came from the model or from the fallback.

* `Policy.scorePayload` repairs a payload with the policy's constraints and
  computes its composites; reported composites in the payload are only
  compared (`discardedComposites`), never used.
* `Policy.fallback` is the record served when no model answer can be used:
  the fallback seed repaired like any payload, with the explanation field
  set to the policy's message that the analysis is unavailable.  It has the
  same fields as any repaired record.
-/

namespace CareerInsight

/-- Where a record came from. -/
inductive RecordSource where
  | generated
  | fallback
  deriving Repr, DecidableEq, BEq

/-- The name of a source in answers. -/
def RecordSource.name : RecordSource → String
  | .generated => "generated"
  | .fallback => "fallback"

/-- A repaired record with its composites. -/
structure ScoredRecord where
  record : Record
  composites : List CompositeScore
  source : RecordSource
  deriving Repr, BEq

/-- The composite that fills a field. -/
def ScoredRecord.composite? (s : ScoredRecord) (field : String) : Option CompositeScore :=
  s.composites.find? (·.field == field)

namespace ScoredRecord

/-- The record with composite `index` changed; none for an index out of range. -/
def updateComposite? (s : ScoredRecord) (index : Nat) (f : CompositeScore → CompositeScore) :
    Option ScoredRecord :=
  if index < s.composites.length then some { s with composites := s.composites.modify index f }
  else none

/-- The record without composite `index`; none for an index out of range. -/
def dropComposite? (s : ScoredRecord) (index : Nat) : Option ScoredRecord :=
  if index < s.composites.length then some { s with composites := s.composites.eraseIdx index }
  else none

end ScoredRecord

namespace Policy

/-- The composites of a record under a policy. -/
def scores (p : Policy) (r : Record) : List CompositeScore := scoreRecord r p.composites

/-- A payload repaired and scored under a policy, with the repairs. -/
def scorePayload (p : Policy) (raw : Json.Fields) : ScoredRecord × List Repair :=
  let v := validate p.domain raw p.fields
  (⟨v.record, p.scores v.record, .generated⟩, v.repairs)

/-- The record with its composites computed again under a policy. -/
def rescore (p : Policy) (s : ScoredRecord) : ScoredRecord := { s with composites := p.scores s.record }

/-- The fallback seed as a payload. -/
def seedPayload (p : Policy) : Json.Fields :=
  Json.Fields.ofList (p.fallbackSeed.map fun (field, v) => (field, v.toJson))

/-- The record served when no model answer can be used. -/
def fallback (p : Policy) : ScoredRecord :=
  let record := (validate p.domain p.seedPayload p.fields).record.set p.explanationField
    (.text p.unavailableMessage)
  ⟨record, p.scores record, .fallback⟩

end Policy

end CareerInsight
