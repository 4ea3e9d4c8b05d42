import CareerInsight.Insight.Invariant
import CareerInsight.Text.Uuid

/-!
# Insights ready to store

An insight is a scored record flattened for storage: every record field
and, for each composite, its score and category, all under their field
names in one object, keyed to the profile it belongs to.  A record is
flattened only after its invariants are checked again; a record that
breaks one is refused with the violation and never stored.
-/

namespace CareerInsight

/-- A scored record flattened for storage. -/
structure PersistableInsight where
  profileId : Uuid
  domain : Domain
  source : RecordSource
  /-- The record fields with each composite's score and category. -/
  fields : Json.Fields
  deriving Repr, BEq

/-- The flat fields of a scored record: the record fields, then each
composite's score and category written over them. -/
def ScoredRecord.flatFields (s : ScoredRecord) : Json.Fields :=
  let base : Json.Fields := s.record.fields.foldl (fun acc (k, v) => Keyed.put acc k v.toJson) []
  s.composites.foldl (fun acc c =>
    Keyed.put (Keyed.put acc c.field (Json.ofFloat c.value)) c.categoryField (.string c.category)) base

/-- Checks a scored record against a policy and flattens it. -/
def PersistableInsight.ofScored (profileId : Uuid) (s : ScoredRecord) (p : Policy) :
    Except Violation PersistableInsight :=
  match s.check p with
  | .error v => .error v
  | .ok () => .ok ⟨profileId, p.domain, s.source, s.flatFields⟩

/-- The insight as JSON. -/
def PersistableInsight.toJson (i : PersistableInsight) : Json :=
  Json.objectOf [("profile_id", .string i.profileId.text), ("domain", .string i.domain.name),
    ("source", .string i.source.name), ("fields", .object i.fields)]

end CareerInsight
