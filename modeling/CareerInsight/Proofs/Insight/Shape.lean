import Mathlib
import CareerInsight.Proofs.Service.Generate
import CareerInsight.Proofs.Keyed.Ordered

/-!
# The shape of a stored insight

An insight is stored as one flat object: the record's fields and, for each
composite, its score and its category.  This file shows that the object
has the same keys and the same kinds of values whatever the gateway did:
for a model payload, an error or a timeout alike, the keys are exactly the
fields the policy declares and the fields its composites fill, and each
value is written in the JSON form its constraint determines.

There are four groups.

* Records in ascending field order.  Every record that validation builds
  keeps its fields in the order of `Keyed.Ordered` (`ordered_validate`), so
  a field is there once and is read back as written.
* The fields of a record.  A validated record holds exactly the fields its
  constraints own (`get?_validate_eq_none`), and the ordering phase never
  reaches a nested field, so a nested object keeps exactly its shape's keys
  (`get?_validate_nested`).  `Policy.Shaped` collects what a record of the
  pipeline satisfies, for a payload and for the fallback alike
  (`shaped_recordOf`).
* The flat object.  `flatFields_eq_ofList` writes it as a map built from
  the record's entries followed by the composites' entries, whose keys are
  all distinct under a well-formed policy (`nodup_flatEntries`), so each
  entry is read back as written (`flatShape_flatFields`).
* The result.  `ofScored_runInsight_shape` states the shape of one run,
  and `ofScored_runInsight_same_shape` that two runs share it.
-/

namespace CareerInsight

/-! ## Records in ascending field order -/

namespace Record

/-- The fields of a record ascend strictly by name. -/
def Ordered (r : Record) : Prop := Keyed.Ordered r.fields

theorem ordered_set {r : Record} (h : r.Ordered) (f : String) (v : FieldValue) :
    (r.set f v).Ordered :=
  Keyed.ordered_put h f v

theorem ordered_foldl_moveStep (ms : List ((String × Float) × Float)) {r : Record}
    (h : r.Ordered) : (ms.foldl moveStep r).Ordered := by
  induction ms generalizing r with
  | nil => exact h
  | cons m ms ih =>
    rw [List.foldl_cons]
    apply ih
    unfold moveStep
    split
    · exact h
    · rw [placeSorted_eq]
      exact ordered_set h _ _

theorem ordered_reorder {r : Record} (h : r.Ordered) (fields : List String) :
    (r.reorder fields).1.Ordered := by
  rw [reorder_fst]
  split
  · exact h
  · exact ordered_foldl_moveStep _ h

/-- A field of an ordered record holds the value of its entry. -/
theorem get?_of_mem {r : Record} (h : r.Ordered) {f : String} {v : FieldValue}
    (hm : (f, v) ∈ r.fields) : r.get? f = some v :=
  Keyed.lookup_of_mem (Keyed.keys_nodup h) hm

end Record

namespace Validation

theorem ordered_foldl_applyField (raw : Json.Fields) (specs : List FieldSpec) {v : Validation}
    (h : v.record.Ordered) : (specs.foldl (applyField raw) v).record.Ordered := by
  induction specs generalizing v with
  | nil => exact h
  | cons spec specs ih =>
    rw [List.foldl_cons]
    apply ih
    rw [record_applyField]
    split
    · exact h
    · exact Record.ordered_set h _ _

theorem ordered_foldl_applyOrdering (specs : List FieldSpec) {v : Validation}
    (h : v.record.Ordered) : (specs.foldl applyOrdering v).record.Ordered := by
  induction specs generalizing v with
  | nil => exact h
  | cons spec specs ih =>
    rw [List.foldl_cons]
    apply ih
    cases spec
    case ordering fields => exact Record.ordered_reorder h fields
    all_goals exact h

/-- The ordering phase leaves every field outside the groups alone. -/
theorem get?_foldl_applyOrdering_of_not_mem (specs : List FieldSpec) (v : Validation) {g : String}
    (hg : g ∉ specs.flatMap FieldSpec.members) :
    (specs.foldl applyOrdering v).record.get? g = v.record.get? g := by
  induction specs generalizing v with
  | nil => rfl
  | cons spec specs ih =>
    rw [List.flatMap_cons, List.mem_append, not_or] at hg
    rw [List.foldl_cons, ih _ hg.2]
    cases spec
    case ordering fields => exact Record.get?_reorder_of_not_mem _ hg.1
    all_goals rfl

end Validation

/-- Every record validation builds has its fields in ascending order. -/
theorem ordered_validate (domain : Domain) (raw : Json.Fields) (specs : List FieldSpec) :
    (validate domain raw specs).record.Ordered :=
  Validation.ordered_foldl_applyOrdering _
    (Validation.ordered_foldl_applyField raw specs (List.Pairwise.nil : Keyed.Ordered []))

/-! ## The fields of a validated record -/

namespace Payload

/-- A repaired nested object has exactly the shape's keys: a conforming
object keeps the keys it must have, and the defaults have them all. -/
theorem mem_keys_keepNested (input : Option Json) (shape : NestedShape) (k : String) :
    k ∈ (keepNested input shape).map (·.1) ↔ k ∈ shape.map (·.1) := by
  have hdefault : k ∈ (shapeDefault shape).map (·.1) ↔ k ∈ shape.map (·.1) := by
    rw [shapeDefault, Json.Fields.ofList, Keyed.mem_keys_ofList, List.map_map]
    rfl
  unfold keepNested
  split
  · split
    · next fields hc =>
      rw [Json.Fields.ofList, Keyed.mem_keys_ofList]
      simp only [List.mem_map, List.mem_filterMap, Option.map_eq_some_iff]
      constructor
      · rintro ⟨_, ⟨⟨key, e⟩, hmem, v, -, rfl⟩, rfl⟩
        exact ⟨(key, e), hmem, rfl⟩
      · rintro ⟨⟨key, e⟩, hmem, rfl⟩
        have hfit := List.all_eq_true.1 hc _ hmem
        obtain ⟨v, hv⟩ : ∃ v, Json.Fields.lookup fields key = some v := by
          cases h : Json.Fields.lookup fields key with
          | none => simp [h, fitsShape] at hfit
          | some v => exact ⟨v, rfl⟩
        rw [Json.Fields.lookup, Keyed.lookup_eq_list_lookup] at hv
        exact ⟨(key, v), ⟨(key, e), hmem, v, hv, rfl⟩, rfl⟩
    · exact hdefault
  · exact hdefault

end Payload

namespace Policy

section Fields

variable {p : Policy} (hwf : p.WellFormed)
include hwf

/-- Every member of an ordering group is owned by a numeric constraint. -/
theorem specFor?_of_member {g : String} (hg : g ∈ p.fields.flatMap FieldSpec.members) :
    ∃ lo hi d kind, p.specFor? g = some (.numeric g lo hi d kind) := by
  obtain ⟨spec, hs, hgs⟩ := List.mem_flatMap.1 hg
  cases spec <;> simp only [FieldSpec.members, List.not_mem_nil] at hgs
  case ordering fields =>
    obtain ⟨kind, _, _, hrange⟩ := hwf.exists_groupRange hs hgs
    obtain ⟨lo, hi, d, hspec, -, -⟩ := hrange g hgs
    exact ⟨lo, hi, d, kind, hspec⟩

/-- A validated record holds no field that no constraint owns. -/
theorem get?_validate_eq_none (raw : Json.Fields) {g : String}
    (hg : ∀ s ∈ p.fields, s.owner? ≠ some g) :
    (validate p.domain raw p.fields).record.get? g = none := by
  have hmem : g ∉ p.fields.flatMap FieldSpec.members := fun hm => by
    obtain ⟨lo, hi, d, kind, hspec⟩ := specFor?_of_member hwf hm
    exact hg _ (mem_of_specFor? hspec).1 (mem_of_specFor? hspec).2
  unfold validate
  rw [Validation.get?_foldl_applyOrdering_of_not_mem _ _ hmem,
    Validation.get?_foldl_applyField_of_unowned raw _ _ hg]
  rfl

/-- A field owned by a constraint other than a numeric one is in no
ordering group. -/
theorem not_mem_members {s : FieldSpec} (hs : s ∈ p.fields) {f : String} (hf : s.owner? = some f)
    (hnum : ∀ lo hi d kind, s ≠ .numeric f lo hi d kind) :
    f ∉ p.fields.flatMap FieldSpec.members := fun hm => by
  obtain ⟨lo, hi, d, kind, hspec⟩ := specFor?_of_member hwf hm
  rw [specFor?_of_owner? hwf.owners_nodup hs hf, Option.some.injEq] at hspec
  exact hnum lo hi d kind hspec

/-- A field in no ordering group keeps the value its constraint wrote. -/
theorem get?_validate_of_not_member (raw : Json.Fields) {s : FieldSpec} (hs : s ∈ p.fields)
    {f : String} {v : FieldValue} {rep : Option RepairKind} (h : s.repairField raw = some (f, v, rep))
    (hmem : f ∉ p.fields.flatMap FieldSpec.members) :
    (validate p.domain raw p.fields).record.get? f = some v := by
  unfold validate
  rw [Validation.get?_foldl_applyOrdering_of_not_mem _ _ hmem]
  exact Validation.get?_foldl_applyField raw h _ _ hwf.owners_nodup hs

/-- A nested field is in no ordering group, so it keeps the object its
constraint wrote. -/
theorem get?_validate_nested (raw : Json.Fields) {f : String} {shape : NestedShape}
    (hs : .nested f shape ∈ p.fields) :
    (validate p.domain raw p.fields).record.get? f =
      some (.nested (Payload.keepNested (raw.lookup f) shape)) :=
  get?_validate_of_not_member hwf raw hs rfl (not_mem_members hwf hs rfl fun _ _ _ _ h => by cases h)

end Fields

end Policy

/-! ## The JSON form of stored values -/

namespace FieldSpec

/-- The JSON form of the value of the field a constraint owns: a finite
float or an integer for the two numeric kinds, an allowed label, a text that
is not blank, an array of texts, an integer for a group size, and an object
with exactly the shape's keys.  A group owns no field. -/
def JsonForm : FieldSpec → Json → Prop
  | numeric _ _ _ _ .float, j => ∃ x, x.isFinite = true ∧ j = .number (.float x)
  | numeric _ _ _ _ .integer, j => ∃ i, j = Json.ofInt i
  | choice _ allowed _, j => ∃ l ∈ allowed, j = .string l
  | text .., j => ∃ t, t.isBlank = false ∧ j = .string t
  | textList .., j => ∃ items, j = Json.ofStrings items
  | cohortFloor .., j => ∃ i, j = Json.ofInt i
  | nested _ shape, j =>
    ∃ fields, j = .object fields ∧ ∀ k, k ∈ fields.map (·.1) ↔ k ∈ shape.map (·.1)
  | ordering _, _ => False

/-- A value that meets its constraint is written in the constraint's JSON
form, once a nested value is known to have exactly the shape's keys. -/
theorem jsonForm_toJson {spec : FieldSpec} {v : FieldValue} (h : spec.Holds v)
    (hnested : ∀ f shape, spec = .nested f shape →
      ∃ fields, v = .nested fields ∧ ∀ k, k ∈ fields.map (·.1) ↔ k ∈ shape.map (·.1)) :
    spec.JsonForm v.toJson := by
  cases spec with
  | numeric f lo hi d kind =>
    cases v <;> cases kind <;>
      simp only [Holds, FieldValue.FitsNumeric, reduceCtorEq, false_and] at h
    case number.float x => exact ⟨x, h.2.1, by simp [FieldValue.toJson, Json.ofFloat, h.2.1]⟩
    case integer.integer i => exact ⟨i, rfl⟩
  | choice f allowed d =>
    cases v <;> simp only [Holds] at h
    case label l => exact ⟨l, h, rfl⟩
  | text f fb =>
    cases v <;> simp only [Holds] at h
    case text t => exact ⟨t, h, rfl⟩
  | textList f m =>
    cases v <;> simp only [Holds] at h
    case list items => exact ⟨items, rfl⟩
  | cohortFloor f k =>
    cases v <;> simp only [Holds] at h
    case integer i => exact ⟨i, rfl⟩
  | nested f shape =>
    obtain ⟨fields, rfl, hkeys⟩ := hnested f shape rfl
    exact ⟨fields, rfl, hkeys⟩
  | ordering fields => cases v <;> simp only [Holds] at h

end FieldSpec

/-! ## Records of a policy -/

namespace Policy

/-- What every record the pipeline makes satisfies under a policy: its
fields ascend, it holds exactly the fields the constraints own, and each of
them holds a value written in its constraint's JSON form. -/
structure Shaped (p : Policy) (r : Record) : Prop where
  ordered : r.Ordered
  owned : ∀ g, (r.get? g).isSome = true ↔ ∃ s ∈ p.fields, s.owner? = some g
  jsonForm : ∀ s ∈ p.fields, ∀ f, s.owner? = some f → ∃ v, r.get? f = some v ∧ s.JsonForm v.toJson

/-- Every nested field holds an object with exactly its shape's keys. -/
def NestedExact (p : Policy) (r : Record) : Prop :=
  ∀ f shape, .nested f shape ∈ p.fields →
    ∃ fields, r.get? f = some (.nested fields) ∧ ∀ k, k ∈ fields.map (·.1) ↔ k ∈ shape.map (·.1)

/-- An ordered record that holds no unowned field, meets every constraint
and has nested objects of exactly their shapes is shaped. -/
theorem shaped_of_fieldsHold {p : Policy} {r : Record} (hord : r.Ordered)
    (hnone : ∀ g, (∀ s ∈ p.fields, s.owner? ≠ some g) → r.get? g = none) (h : p.FieldsHold r)
    (hnested : p.NestedExact r) : p.Shaped r := by
  refine ⟨hord, fun g => ⟨fun hg => ?_, fun ⟨s, hs, hf⟩ => ?_⟩, fun s hs f hf => ?_⟩
  · by_contra hno
    rw [hnone g fun s hs hf => hno ⟨s, hs, hf⟩] at hg
    cases hg
  · obtain ⟨v, hv, -⟩ := h s hs g hf
    simp [hv]
  · obtain ⟨v, hv, hholds⟩ := h s hs f hf
    refine ⟨v, hv, FieldSpec.jsonForm_toJson hholds fun f' shape hsh => ?_⟩
    subst hsh
    cases hf
    obtain ⟨fields, hv', hkeys⟩ := hnested f shape hs
    rw [hv, Option.some.injEq] at hv'
    exact ⟨fields, hv', hkeys⟩

/-- The fallback record is the validated seed with its explanation
replaced. -/
theorem fallback_record (p : Policy) : p.fallback.record =
    (validate p.domain p.seedPayload p.fields).record.set p.explanationField
      (.text p.unavailableMessage) := rfl

section Shaped

variable {p : Policy} (hwf : p.WellFormed)
include hwf

/-- Every nested field of a validated record has exactly its shape's keys. -/
theorem nestedExact_validate (raw : Json.Fields) : p.NestedExact (validate p.domain raw p.fields).record :=
  fun _ shape hs => ⟨_, get?_validate_nested hwf raw hs, Payload.mem_keys_keepNested _ shape⟩

/-- A validated record is shaped. -/
theorem shaped_validate (raw : Json.Fields) : p.Shaped (validate p.domain raw p.fields).record :=
  shaped_of_fieldsHold (ordered_validate _ _ _) (fun _ => get?_validate_eq_none hwf raw)
    (settled_validate hwf raw).2.1 (nestedExact_validate hwf raw)

/-- The explanation field is owned, by a text constraint. -/
theorem exists_explanation_owner : ∃ s ∈ p.fields, s.owner? = some p.explanationField ∧
    ∀ f shape, s ≠ .nested f shape := by
  obtain ⟨fb, hspec⟩ := hwf.exists_explanation
  obtain ⟨hs, hf⟩ := mem_of_specFor? hspec
  exact ⟨_, hs, hf, fun _ _ h => by cases h⟩

/-- The fallback record, a validated seed with its explanation replaced, is
shaped. -/
theorem shaped_fallback : p.Shaped p.fallback.record := by
  have hv := settled_validate hwf p.seedPayload
  obtain ⟨s, hs, hf, hnotNested⟩ := exists_explanation_owner hwf
  rw [fallback_record]
  apply shaped_of_fieldsHold (Record.ordered_set (ordered_validate _ _ _) _ _)
  · intro g hg
    rw [Record.get?_set, if_neg (fun (he : p.explanationField = g) => hg s hs (he ▸ hf))]
    exact get?_validate_eq_none hwf _ hg
  · exact (settled_set_explanation hwf hv.2.1 hv.2.2).1
  · intro f shape hn
    have hne : p.explanationField ≠ f := fun he => by
      subst he
      have := specFor?_of_owner? hwf.owners_nodup hs hf
      rw [specFor?_of_owner? hwf.owners_nodup hn rfl, Option.some.injEq] at this
      exact hnotNested _ _ this.symm
    obtain ⟨fields, hget, hkeys⟩ := nestedExact_validate hwf p.seedPayload f shape hn
    exact ⟨fields, by rw [Record.get?_set, if_neg hne, hget], hkeys⟩

/-- Whatever the gateway did, the pipeline's record is shaped. -/
theorem shaped_recordOf (result : Except GatewayError Json.Fields) : p.Shaped (p.recordOf result).record := by
  cases result with
  | ok raw => exact shaped_validate hwf raw
  | error e => exact shaped_fallback hwf

end Shaped

/-- The pipeline's record carries the composites of its own fields. -/
theorem composites_recordOf (p : Policy) (result : Except GatewayError Json.Fields) :
    (p.recordOf result).composites = p.scores (p.recordOf result).record := by
  cases result <;> rfl

end Policy

/-! ## The flat object -/

/-- The label of a score is one of the table's labels. -/
theorem Tiers.categorize_mem_labels (t : Tiers) (x : Float) : t.categorize x ∈ t.labels := by
  unfold categorize labels
  split
  · next b l hfind =>
    exact List.mem_append_left _ (List.mem_map.2 ⟨(b, l), List.mem_of_find?_eq_some hfind, rfl⟩)
  · exact List.mem_append_right _ (List.mem_singleton_self _)

namespace ScoredRecord

/-- The entries of a scored record's flat object in the order they are
written: the record's fields, then each composite's score and category. -/
def flatEntries (s : ScoredRecord) : List (String × Json) :=
  s.record.fields.map (fun (k, v) => (k, v.toJson)) ++
    s.composites.flatMap fun c => [(c.field, Json.ofFloat c.value), (c.categoryField, .string c.category)]

/-- The flat object is the map of its entries. -/
theorem flatFields_eq_ofList (s : ScoredRecord) : s.flatFields = Keyed.ofList s.flatEntries := by
  rw [flatEntries, Keyed.ofList, List.foldl_append, List.foldl_map, List.foldl_flatMap]
  rfl

/-- The keys of the flat entries: the record's fields, then the composites'
fields. -/
theorem keys_flatEntries (s : ScoredRecord) :
    s.flatEntries.map (·.1) =
      s.record.fields.map (·.1) ++ s.composites.flatMap fun c => [c.field, c.categoryField] := by
  simp [flatEntries, List.map_flatMap]

end ScoredRecord

namespace Policy

/-- The flat object of an insight under a policy: its keys are exactly the
declared fields and the composites' fields; each declared field is in its
constraint's JSON form, each composite score a finite float and each category
one of its tiers' labels. -/
structure FlatShape (p : Policy) (fields : Json.Fields) : Prop where
  keys : ∀ k, k ∈ fields.map (·.1) ↔ (∃ s ∈ p.fields, s.owner? = some k) ∨ k ∈ p.outputFields
  declared : ∀ s ∈ p.fields, ∀ f, s.owner? = some f → ∃ j, fields.lookup f = some j ∧ s.JsonForm j
  scores : ∀ c ∈ p.composites, ∃ x, x.isFinite = true ∧ fields.lookup c.field = some (.number (.float x))
  categories : ∀ c ∈ p.composites, ∃ l ∈ c.tiers.labels,
    fields.lookup c.categoryField = some (.string l)

/-- The composites of a record fill the policy's output fields. -/
theorem outputFields_scores (p : Policy) (r : Record) :
    (p.scores r).flatMap (fun c => [c.field, c.categoryField]) = p.outputFields := by
  simp [scores, scoreRecord, outputFields, List.flatMap_map, CompositeFormula.evaluate,
    CompositeFormula.scoreOf]

/-- A shaped record has a field exactly when a constraint owns it. -/
theorem Shaped.mem_keys {p : Policy} {r : Record} (h : p.Shaped r) (k : String) :
    k ∈ r.fields.map (·.1) ↔ ∃ s ∈ p.fields, s.owner? = some k := by
  rw [← h.owned k]
  constructor
  · intro hk
    obtain ⟨⟨k', v⟩, hm, rfl⟩ := List.mem_map.1 hk
    simp [Record.get?_of_mem h.ordered hm]
  · intro hk
    obtain ⟨v, hv⟩ := Option.isSome_iff_exists.1 hk
    exact List.mem_map_of_mem (Keyed.mem_of_lookup hv)

section Flat

variable {p : Policy} (hwf : p.WellFormed)
include hwf

/-- The flat entries of a shaped record have distinct keys: the record's own
ascend, the output fields are distinct, and no constraint owns an output
field. -/
theorem nodup_flatEntries {r : Record} (h : p.Shaped r) (source : RecordSource) :
    ((⟨r, p.scores r, source⟩ : ScoredRecord).flatEntries.map (·.1)).Nodup := by
  rw [ScoredRecord.keys_flatEntries, outputFields_scores]
  refine List.nodup_append.2 ⟨Keyed.keys_nodup h.ordered, hwf.outputs_nodup, ?_⟩
  rintro k hk _ hout rfl
  obtain ⟨s, hs, hf⟩ := (h.mem_keys k).1 hk
  have hnone := hwf.outputs_undeclared k hout
  rw [specFor?_of_owner? hwf.owners_nodup hs hf] at hnone
  cases hnone

/-- The flat object of a shaped record scored under a policy has the policy's
flat shape.  Each composite writes its own score and category. -/
theorem flatShape_flatFields {r : Record} (h : p.Shaped r) (source : RecordSource) :
    p.FlatShape (⟨r, p.scores r, source⟩ : ScoredRecord).flatFields := by
  have hnd := nodup_flatEntries hwf h source
  have hmem : ∀ {k j}, (k, j) ∈ (⟨r, p.scores r, source⟩ : ScoredRecord).flatEntries →
      Json.Fields.lookup (⟨r, p.scores r, source⟩ : ScoredRecord).flatFields k = some j := by
    intro k j hkj
    rw [ScoredRecord.flatFields_eq_ofList]
    exact Keyed.lookup_ofList_of_mem hnd hkj
  have hcomp : ∀ c ∈ p.composites, ∀ e ∈ [(c.field, Json.ofFloat (c.evaluate r).value),
      (c.categoryField, Json.string (c.evaluate r).category)],
      e ∈ (⟨r, p.scores r, source⟩ : ScoredRecord).flatEntries := fun c hc e he =>
    List.mem_append_right _ (List.mem_flatMap.2 ⟨c.evaluate r, List.mem_map_of_mem hc, he⟩)
  refine ⟨fun k => ?_, fun s hs f hf => ?_, fun c hc => ?_, fun c hc => ?_⟩
  · rw [ScoredRecord.flatFields_eq_ofList, Keyed.mem_keys_ofList, ScoredRecord.keys_flatEntries,
      outputFields_scores, List.mem_append, h.mem_keys]
  · obtain ⟨v, hv, hform⟩ := h.jsonForm s hs f hf
    exact ⟨v.toJson, hmem (List.mem_append_left _
      (List.mem_map_of_mem (f := fun (e : String × FieldValue) => (e.1, e.2.toJson))
        (Keyed.mem_of_lookup hv))), hform⟩
  · obtain ⟨hfin, -, -⟩ := compose_spec (CompositeFormula.pairsOf (c.componentsOf r))
      (hwf.ceilings_nonneg c hc)
    refine ⟨_, hfin, hmem (hcomp c hc _ (List.mem_cons_self ..)) |>.trans ?_⟩
    simp only [Json.ofFloat, CompositeFormula.evaluate, CompositeFormula.scoreOf, hfin, if_true]
  · exact ⟨_, Tiers.categorize_mem_labels c.tiers (c.evaluate r).value,
      hmem (hcomp c hc _ (List.mem_cons_of_mem _ (List.mem_singleton_self _)))⟩

/-- Whatever the gateway did, the pipeline's insight is stored, and its
flat object has the policy's flat shape. -/
theorem ofScored_runInsight_shape (context : List (String × String)) (settings : PipelineSettings)
    (gateway : CompletionRequest → GatewayOutcome) (id : Uuid) :
    ∃ i, PersistableInsight.ofScored id (p.runInsight context settings gateway) p = .ok i ∧
      p.FlatShape i.fields := by
  generalize hres : (gateway (p.completionRequest context settings)).result settings = result
  have hrun : p.runInsight context settings gateway = p.recordOf result := by
    rw [runInsight, hres]
  rw [hrun, ofScored_of_check (recordOf_check hwf result)]
  refine ⟨_, rfl, ?_⟩
  have hs : p.recordOf result = ⟨(p.recordOf result).record, p.scores (p.recordOf result).record,
      (p.recordOf result).source⟩ := by
    rw [← composites_recordOf]
  rw [hs]
  exact flatShape_flatFields hwf (shaped_recordOf hwf result) _

end Flat

end Policy

/-- The shape of a stored insight does not depend on the gateway: for a
builtin domain, any two runs, whatever their contexts, settings and gateway
outcomes (a payload, an error or a timeout), store insights whose flat objects
have the same keys, and both have the policy's flat shape.  Both key sets are
the declared fields followed by the output fields. -/
theorem ofScored_runInsight_same_shape (d : Domain) (context₁ context₂ : List (String × String))
    (settings₁ settings₂ : PipelineSettings) (gateway₁ gateway₂ : CompletionRequest → GatewayOutcome)
    (id₁ id₂ : Uuid) :
    ∃ i₁ i₂, PersistableInsight.ofScored id₁ (d.policy.runInsight context₁ settings₁ gateway₁) d.policy =
        .ok i₁ ∧
      PersistableInsight.ofScored id₂ (d.policy.runInsight context₂ settings₂ gateway₂) d.policy =
        .ok i₂ ∧
      (∀ k, k ∈ i₁.fields.map (·.1) ↔ k ∈ i₂.fields.map (·.1)) ∧
      d.policy.FlatShape i₁.fields ∧ d.policy.FlatShape i₂.fields := by
  have hwf := Domain.policy_wellFormed d
  obtain ⟨i₁, h₁, hshape₁⟩ := Policy.ofScored_runInsight_shape hwf context₁ settings₁ gateway₁ id₁
  obtain ⟨i₂, h₂, hshape₂⟩ := Policy.ofScored_runInsight_shape hwf context₂ settings₂ gateway₂ id₂
  refine ⟨i₁, i₂, h₁, h₂, fun k => ?_, hshape₁, hshape₂⟩
  rw [hshape₁.keys, hshape₂.keys]

end CareerInsight
