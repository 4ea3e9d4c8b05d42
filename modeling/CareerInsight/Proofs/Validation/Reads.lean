import Mathlib
import CareerInsight.Proofs.Validation.Repair
import CareerInsight.Insight.Scored

/-!
# What repair reads of a payload

A payload is untrusted: beside the declared fields, a model may report its
own composite scores, category labels or any other key.  Repair reads the
payload only through the fields its constraints own, and scoring reads only
the repaired record.  So two payloads that agree on the owned fields give
the same record, the same repairs and the same composites, whatever else
they hold.

* `FieldSpec.repairField_congr`: a constraint reads the field it owns and
  nothing else.
* `validate_congr`: the field phase, step by step, and the ordering phase,
  which reads the record only.
* `validate_scoreRecord_eq_of_owned`: the two-run statement.
-/

namespace CareerInsight

/-- Two payloads agree on every field a constraint of the list owns. -/
def AgreeOnOwned (specs : List FieldSpec) (raw₁ raw₂ : Json.Fields) : Prop :=
  ∀ spec ∈ specs, ∀ f, spec.owner? = some f → raw₁.lookup f = raw₂.lookup f

/-- A constraint reads the payload at the field it owns only. -/
theorem FieldSpec.repairField_congr {spec : FieldSpec} {raw₁ raw₂ : Json.Fields}
    (h : ∀ f, spec.owner? = some f → raw₁.lookup f = raw₂.lookup f) :
    spec.repairField raw₁ = spec.repairField raw₂ := by
  cases spec with
  | ordering fields => rfl
  | numeric f lo hi d kind => simp only [repairField, h f rfl]
  | choice f allowed d => simp only [repairField, h f rfl]
  | text f fallback => simp only [repairField, h f rfl]
  | textList f maxItems => simp only [repairField, h f rfl]
  | cohortFloor f k => simp only [repairField, h f rfl]
  | nested f shape => simp only [repairField, h f rfl]

/-- The field phase gives the same validation for payloads that agree on
the owned fields. -/
theorem foldl_applyField_congr {specs : List FieldSpec} {raw₁ raw₂ : Json.Fields}
    (h : AgreeOnOwned specs raw₁ raw₂) (v : Validation) :
    specs.foldl (Validation.applyField raw₁) v = specs.foldl (Validation.applyField raw₂) v := by
  induction specs generalizing v with
  | nil => rfl
  | cons spec specs ih =>
    have hstep : v.applyField raw₁ spec = v.applyField raw₂ spec := by
      unfold Validation.applyField
      rw [FieldSpec.repairField_congr fun f hf => h spec List.mem_cons_self f hf]
    rw [List.foldl_cons, List.foldl_cons, hstep]
    exact ih (fun s hs => h s (List.mem_cons_of_mem _ hs)) _

/-- Repair reads a payload only through the fields its constraints own.  The
ordering phase reads only the record the field phase left. -/
theorem validate_congr (domain : Domain) {specs : List FieldSpec} {raw₁ raw₂ : Json.Fields}
    (h : AgreeOnOwned specs raw₁ raw₂) : validate domain raw₁ specs = validate domain raw₂ specs := by
  unfold validate
  rw [foldl_applyField_congr h]

/-- Two payloads that agree on every field a constraint owns repair into
the same record with the same repairs, and the record scores into the same
composites: a reported composite, a category label or any other key the
constraints do not own changes nothing. -/
theorem validate_scoreRecord_eq_of_owned (domain : Domain) (specs : List FieldSpec)
    (formulas : List CompositeFormula) (raw₁ raw₂ : Json.Fields)
    (h : ∀ spec ∈ specs, ∀ f, spec.owner? = some f → raw₁.lookup f = raw₂.lookup f) :
    (validate domain raw₁ specs).record = (validate domain raw₂ specs).record ∧
      (validate domain raw₁ specs).repairs = (validate domain raw₂ specs).repairs ∧
      scoreRecord (validate domain raw₁ specs).record formulas =
        scoreRecord (validate domain raw₂ specs).record formulas := by
  have hv := validate_congr domain h
  exact ⟨congrArg Validation.record hv, congrArg Validation.repairs hv, by rw [hv]⟩

/-- A payload that also reports the trajectory score and its category
repairs and scores as the payload without them. -/
theorem reported_composite_ignored :
    (validate .careerTrajectory [("momentum_score", .number (.natural 70))]
        [FieldSpec.float "momentum_score" 0.0 100.0 50.0]).record =
      (validate .careerTrajectory [("momentum_score", .number (.natural 70)),
        ("trajectory_category", .string "accelerating"), ("trajectory_score", .number (.natural 99))]
        [FieldSpec.float "momentum_score" 0.0 100.0 50.0]).record ∧
    (validate .careerTrajectory [("momentum_score", .number (.natural 70))]
        [FieldSpec.float "momentum_score" 0.0 100.0 50.0]).repairs =
      (validate .careerTrajectory [("momentum_score", .number (.natural 70)),
        ("trajectory_category", .string "accelerating"), ("trajectory_score", .number (.natural 99))]
        [FieldSpec.float "momentum_score" 0.0 100.0 50.0]).repairs ∧
    scoreRecord (validate .careerTrajectory [("momentum_score", .number (.natural 70))]
        [FieldSpec.float "momentum_score" 0.0 100.0 50.0]).record
        Policy.careerTrajectory.composites =
      scoreRecord (validate .careerTrajectory [("momentum_score", .number (.natural 70)),
        ("trajectory_category", .string "accelerating"), ("trajectory_score", .number (.natural 99))]
        [FieldSpec.float "momentum_score" 0.0 100.0 50.0]).record
        Policy.careerTrajectory.composites :=
  validate_scoreRecord_eq_of_owned .careerTrajectory _ _ _ _ (by
    intro spec hs f hf
    simp only [List.mem_singleton] at hs
    subst hs
    simp only [FieldSpec.float, FieldSpec.owner?, Option.some.injEq] at hf
    subst hf
    rfl)

end CareerInsight
