import Mathlib
import CareerInsight.Proofs.Binary64.Rounding
import CareerInsight.Proofs.Composite.Score
import CareerInsight.Policy.Builtin

/-!
# Composite scores are monotone

A composite reads each signal, moves it onto the formula's scale, sums the
weighted values from the left and clamps the sum; its category is the first
tier whose bound the score does not exceed.  Every stage keeps the order of
its input: the float arithmetic by `Float.add_le_add` and its kin, and the
clamps and the tier search because they only compare.  Two stages make an
exception of their own: a weighted sum that overflows is scored `0`, and so
is a reading that overflows before it is moved onto the scale (the scale
minus a very negative field, or a level times the scale).  So a record whose
reads are all no better scores no higher, and falls in no later tier, as
long as the other record's readings and weighted sum stay finite.

* `onScale_mono` and `clampScore_mono`: the two clamps keep the order.
* `signalValue_mono`: a signal read no better gives no larger a value.
* `weightedSum_mono`: so does the weighted sum of all components.
* `Tiers.rank` is the position of a score's tier among `Tiers.labels`, and
  `Tiers.rank_mono` says that a larger score falls in no earlier tier,
  whatever the order of the bounds.
* `evaluate_monotone` puts them together.
-/

namespace CareerInsight

namespace CompositeFormula

/-- The level a level signal reads: the label's level in the table, and `0`
when the record has no label there. -/
def levelOf (r : Record) (name : String) (table : LevelTable) : Float :=
  match r.label? name with
  | some l => levelScore l table
  | none => 0.0

/-- The reads of a signal in `r` are finite and no better than in `r'`: a
field no greater, an inverted field no smaller, a level no greater.  The
reading of an inverted field or of a level in `r'` is finite, so that it is
not an overflow that the scale counts as `0`. -/
def ReadsBelow (f : CompositeFormula) (r r' : Record) : Signal → Prop
  | .field name =>
    ((r.number? name).getD 0.0).isFinite = true ∧ ((r'.number? name).getD 0.0).isFinite = true ∧
      (r.number? name).getD 0.0 ≤ (r'.number? name).getD 0.0
  | .inverted name =>
    ((r.number? name).getD f.scale).isFinite = true ∧
      ((r'.number? name).getD f.scale).isFinite = true ∧
      (r'.number? name).getD f.scale ≤ (r.number? name).getD f.scale ∧
      (f.scale - (r'.number? name).getD f.scale).isFinite = true
  | .level name table =>
    (levelOf r name table).isFinite = true ∧ (levelOf r' name table).isFinite = true ∧
      levelOf r name table ≤ levelOf r' name table ∧
      (levelOf r' name table * f.scale).isFinite = true

instance (f : CompositeFormula) (r r' : Record) (s : Signal) : Decidable (f.ReadsBelow r r' s) := by
  cases s <;> unfold ReadsBelow <;> infer_instance

/-! ## Values on the scale -/

section Scale

variable {scale : Float}

/-- On a finite value the signal is the value capped at the scale when that
is above zero, and `0.0` otherwise; a value that is not finite gives `0.0`. -/
theorem onScale_eq (scale x : Float) :
    onScale scale x =
      if x.isFinite then (if Float.minNum x scale > 0.0 then Float.minNum x scale else 0.0)
      else 0.0 := by
  unfold onScale Payload.clampFloat
  split
  · next hx =>
    have hc : (Float.minNum x scale).isNaN = false :=
      Float.isNaN_minNum (Float.isNaN_eq_false hx) scale
    have hz : (0.0 : Float).isNaN = false := rfl
    have hv : Float.maxNum 0.0 (Float.minNum x scale) =
        if Float.minNum x scale < 0.0 then 0.0 else Float.minNum x scale := by
      rw [Float.maxNum, if_neg (by rw [hc]; decide)]
    dsimp only
    rw [hv]
    by_cases hneg : Float.minNum x scale < 0.0
    · rw [if_pos hneg, if_pos (Float.beq_self hz), if_neg (Float.not_lt_of_le (Float.le_of_lt hneg))]
    · rw [if_neg hneg]
      by_cases hpos : Float.minNum x scale > 0.0
      · have hne : (Float.minNum x scale).extValue ≠ (0.0 : Float).extValue :=
          ne_of_gt ((Float.lt_iff_extValue hz hc).1 hpos)
        rw [if_pos hpos, if_neg (by rwa [Float.beq_iff_extValue hc hz])]
      · have hle : Float.minNum x scale ≤ 0.0 := Float.le_of_not_lt hc hz hpos
        have hge : (0.0 : Float) ≤ Float.minNum x scale := Float.le_of_not_lt hz hc hneg
        rw [if_neg hpos, if_pos ((Float.beq_iff_extValue hc hz).2
          (le_antisymm ((Float.le_iff_extValue hc hz).1 hle) ((Float.le_iff_extValue hz hc).1 hge)))]
  · rfl

theorem isFinite_onScale (hs : scale.isFinite = true) (x : Float) :
    (onScale scale x).isFinite = true := by
  rw [onScale_eq]
  split
  · next hx =>
    split
    · exact (Float.minNum_spec hx hs).1
    · exact zero_isFinite
  · exact zero_isFinite

theorem zero_le_onScale (x : Float) : 0.0 ≤ onScale scale x := by
  rw [onScale_eq]
  split
  · split
    · next h => exact Float.le_of_lt h
    · exact Float.le_refl_of_isNaN rfl
  · exact Float.le_refl_of_isNaN rfl

/-- Moving onto the scale keeps the order, for a finite scale and a finite
larger value; the smaller one may be `-∞`, which counts as `0`.  Capping at
the scale keeps the order, and so does raising to zero. -/
theorem onScale_mono (hs : scale.isFinite = true) {x x' : Float} (h : x ≤ x')
    (hx' : x'.isFinite = true) : onScale scale x ≤ onScale scale x' := by
  by_cases hx : x.isFinite = true
  · obtain ⟨hcf, hcs⟩ := Float.minNum_spec hx hs
    obtain ⟨hcf', hcs'⟩ := Float.minNum_spec hx' hs
    have hle : Float.minNum x scale ≤ Float.minNum x' scale := by
      rw [Float.le_iff_scaled hx hx'] at h
      rw [Float.le_iff_scaled hcf hcf', hcs, hcs']
      omega
    rw [onScale_eq, onScale_eq, if_pos hx, if_pos hx']
    split_ifs with h₁ h₂ h₂
    · exact hle
    · exact absurd (Float.lt_of_lt_of_le h₁ hle) h₂
    · exact Float.le_of_lt h₂
    · exact Float.le_refl_of_isNaN rfl
  · rw [onScale_eq scale x, if_neg hx]
    exact zero_le_onScale x'

/-- A negative scale leaves no room above zero. -/
theorem onScale_of_neg (hs : scale.isFinite = true) (hneg : scale < 0.0) (x : Float) :
    onScale scale x = 0.0 := by
  rw [onScale_eq]
  split
  · next hx =>
    obtain ⟨hcf, hcs⟩ := Float.minNum_spec hx hs
    rw [if_neg]
    intro hpos
    rw [gt_iff_lt, Float.lt_iff_scaled zero_isFinite hcf, hcs, Float.scaled_zero] at hpos
    rw [Float.lt_iff_scaled hs zero_isFinite, Float.scaled_zero] at hneg
    omega
  · rfl

end Scale

/-! ## Signals -/

theorem signalValue_level (f : CompositeFormula) (r : Record) (name : String) (table : LevelTable) :
    f.signalValue r (.level name table) = onScale f.scale (levelOf r name table * f.scale) := rfl

theorem isFinite_signalValue {f : CompositeFormula} (hs : f.scale.isFinite = true) (r : Record)
    (s : Signal) : (f.signalValue r s).isFinite = true := by
  cases s <;> exact isFinite_onScale hs _

theorem zero_le_signalValue (f : CompositeFormula) (r : Record) (s : Signal) :
    0.0 ≤ f.signalValue r s := by
  cases s <;> exact zero_le_onScale _

/-- A signal read no better gives no larger a value: a field directly, an
inverted field through `Float.sub_le_sub_left`, a level through
`Float.mul_le_mul_of_nonneg_right`.  A negative scale scores every level `0`.
-/
theorem signalValue_mono {f : CompositeFormula} {r r' : Record} (hs : f.scale.isFinite = true)
    {s : Signal} (h : f.ReadsBelow r r' s) : f.signalValue r s ≤ f.signalValue r' s := by
  cases s with
  | field name =>
    obtain ⟨-, hx', hle⟩ := h
    exact onScale_mono hs hle hx'
  | inverted name =>
    obtain ⟨hx, hx', hle, hfin⟩ := h
    exact onScale_mono hs (Float.sub_le_sub_left hs hx hx' hle) hfin
  | level name table =>
    obtain ⟨hl, hl', hle, hfin⟩ := h
    rw [signalValue_level, signalValue_level]
    by_cases h0 : 0.0 ≤ f.scale
    · exact onScale_mono hs (Float.mul_le_mul_of_nonneg_right hl hl' hs h0 hle) hfin
    · have hneg : f.scale < 0.0 := Float.lt_of_not_le (Float.isNaN_eq_false hs) rfl h0
      rw [onScale_of_neg hs hneg, onScale_of_neg hs hneg]
      exact Float.le_refl_of_isNaN rfl

/-! ## The weighted sum and its clamp -/

theorem weightedSum_componentsOf (f : CompositeFormula) (r : Record) :
    weightedSum (pairsOf (f.componentsOf r)) =
      (f.components.map fun c => c.weight * f.signalValue r c.signal).foldl (· + ·) (-0.0) := by
  simp [weightedSum, Float.sumFromNegZero, pairsOf, componentsOf, List.map_map, Function.comp_def]

/-- With weights that are not negative, the weighted sum of a record read no
better is no larger, as long as the other sum is finite; it is never
negative. -/
theorem weightedSum_mono {f : CompositeFormula} {r r' : Record}
    (hw : ∀ c ∈ f.components, 0.0 ≤ c.weight) (hs : f.scale.isFinite = true)
    (hreads : ∀ c ∈ f.components, f.ReadsBelow r r' c.signal)
    (hsum : (weightedSum (pairsOf (f.componentsOf r'))).isFinite = true) :
    0.0 ≤ weightedSum (pairsOf (f.componentsOf r)) ∧
      weightedSum (pairsOf (f.componentsOf r)) ≤ weightedSum (pairsOf (f.componentsOf r')) := by
  rw [weightedSum_componentsOf] at hsum ⊢
  rw [weightedSum_componentsOf]
  refine Float.foldl_add_mono ?_ (by decide) (Float.le_refl_of_isNaN rfl) hsum
  rw [List.forall₂_map_left_iff, List.forall₂_map_right_iff]
  refine List.forall₂_same.2 fun c hc hfin => ?_
  obtain ⟨hwf, hv'f⟩ := Float.isFinite_of_isFinite_mul hfin
  have hvf := isFinite_signalValue hs r c.signal
  exact ⟨Float.zero_le_mul hwf hvf (hw c hc) (zero_le_signalValue f r c.signal),
    Float.mul_le_mul_of_nonneg_left hwf hvf hv'f (hw c hc) (signalValue_mono hs (hreads c hc))⟩

end CompositeFormula

/-- Raising to zero and lowering to a ceiling that is at least zero keeps the
order of finite values; an infinite ceiling is never taken. -/
theorem clampScore_mono {x x' ceiling : Float} (hx : x.isFinite = true) (hx' : x'.isFinite = true)
    (h0 : 0.0 ≤ ceiling) (h : x ≤ x') : clampScore x ceiling ≤ clampScore x' ceiling := by
  have hc := (Float.isNaN_eq_false_of_le h0).2
  have hraised : (if x < 0.0 then 0.0 else x) ≤ (if x' < 0.0 then 0.0 else x') ∧
      (if x < 0.0 then 0.0 else x).isNaN = false := by
    split_ifs with h₁ h₂ h₂
    · exact ⟨Float.le_refl_of_isNaN rfl, rfl⟩
    · exact ⟨Float.le_of_not_lt rfl (Float.isNaN_eq_false hx') h₂, rfl⟩
    · exact absurd (Float.lt_of_le_of_lt h h₂) h₁
    · exact ⟨h, Float.isNaN_eq_false hx⟩
  unfold clampScore
  generalize (if x < 0.0 then 0.0 else x) = a at hraised ⊢
  generalize (if x' < 0.0 then 0.0 else x') = a' at hraised ⊢
  obtain ⟨haa, ha⟩ := hraised
  dsimp only
  split_ifs with h₁ h₂ h₂
  · exact Float.le_refl_of_isNaN hc
  · exact absurd (Float.lt_of_lt_of_le h₁ haa) h₂
  · exact Float.le_of_not_lt ha hc h₁
  · exact haa

/-- A weighted sum no larger than a finite one, and not negative, composes to
a score no larger. -/
theorem compose_mono {pairs pairs' : List (Float × Float)} {ceiling : Float} (h0 : 0.0 ≤ ceiling)
    (hnonneg : 0.0 ≤ weightedSum pairs) (hle : weightedSum pairs ≤ weightedSum pairs')
    (hfin : (weightedSum pairs').isFinite = true) : compose pairs ceiling ≤ compose pairs' ceiling := by
  have hf := Float.isFinite_of_le_of_le zero_isFinite hfin hnonneg hle
  unfold compose
  simp only [hf, hfin, if_true]
  exact clampScore_mono hf hfin h0 hle

/-! ## Tiers -/

namespace Tiers

/-- The position of a score's tier among `labels`: the first bound at least
the score, or the catch-all past every bound. -/
def rank (t : Tiers) (score : Float) : Nat := t.bounds.findIdx fun (bound, _) => score ≤ bound

/-- The category of a score is the label at its rank. -/
theorem categorize_eq_getD_rank (t : Tiers) (score : Float) :
    t.categorize score = t.labels.getD (t.rank score) t.catchAll := by
  obtain ⟨bounds, catchAll⟩ := t
  simp only [categorize, labels, rank]
  induction bounds with
  | nil => rfl
  | cons b bounds ih =>
    obtain ⟨bound, label⟩ := b
    rw [List.find?_cons, List.findIdx_cons]
    by_cases h : score ≤ bound
    · simp [h]
    · simp [h, ih]

/- A bound belongs to the tier it closes, and a NaN score is in no tier but
the catch-all. -/
example : let t : Tiers :=
      ⟨[(20.0, "critical"), (40.0, "low"), (60.0, "moderate"), (80.0, "healthy")], "thriving"⟩
    t.categorize 20.0 = "critical" ∧ t.categorize 20.01 = "low" ∧ t.categorize 80.5 = "thriving" ∧
      t.categorize (0.0 / 0.0) = "thriving" := by
  decide +kernel

/-- A larger score falls in no earlier tier: every bound the larger score
does not exceed, the smaller one does not exceed either. -/
theorem rank_mono (t : Tiers) {s s' : Float} (h : s ≤ s') : t.rank s ≤ t.rank s' :=
  List.findIdx_le_findIdx fun b _ hb => by
    simp only [decide_eq_true_eq] at hb ⊢
    exact Float.le_trans h hb

end Tiers

/-- Composite scores are monotone in what they read.  Take weights that are
not negative, a finite scale and a ceiling at least zero, and two records
whose reads (`ReadsBelow`) are no better in `r` than in `r'`, with the
weighted sum of `r'` finite.  Then `r` scores no higher than `r'`, its tier
comes no later in the order of `Tiers.labels`, and each category is the
label at the score's rank.  The order of the tier bounds plays no part. -/
theorem evaluate_monotone {f : CompositeFormula} {r r' : Record}
    (hw : ∀ c ∈ f.components, 0.0 ≤ c.weight) (hscale : f.scale.isFinite = true)
    (hceil : 0.0 ≤ f.ceiling) (hreads : ∀ c ∈ f.components, f.ReadsBelow r r' c.signal)
    (hsum : (weightedSum (CompositeFormula.pairsOf (f.componentsOf r'))).isFinite = true) :
    (f.evaluate r).value ≤ (f.evaluate r').value ∧
      f.tiers.rank (f.evaluate r).value ≤ f.tiers.rank (f.evaluate r').value ∧
      ∀ r₀ : Record, (f.evaluate r₀).category =
        f.tiers.labels.getD (f.tiers.rank (f.evaluate r₀).value) f.tiers.catchAll := by
  obtain ⟨hnonneg, hle⟩ := CompositeFormula.weightedSum_mono hw hscale hreads hsum
  have hvalue : (f.evaluate r).value ≤ (f.evaluate r').value :=
    compose_mono hceil hnonneg hle hsum
  exact ⟨hvalue, f.tiers.rank_mono hvalue,
    fun r₀ => Tiers.categorize_eq_getD_rank f.tiers (f.evaluate r₀).value⟩

/-- A role of the automation-risk domain: task exposure `40`, moderate
adoption, skill premium `60`, augmentation potential `50`. -/
def steadierRole : Record :=
  ⟨.automationRisk, [("adoption_speed", .label "moderate"), ("augmentation_potential", .number 50.0),
    ("human_skill_premium", .number 60.0), ("task_automation_exposure", .number 40.0)]⟩

/-- The same role read as riskier: exposure `70`, fast adoption and a skill
premium of only `30`. -/
def exposedRole : Record :=
  ⟨.automationRisk, [("adoption_speed", .label "fast"), ("augmentation_potential", .number 50.0),
    ("human_skill_premium", .number 30.0), ("task_automation_exposure", .number 70.0)]⟩

/-- The built-in automation-risk composite, with a field, a level and two
inverted signals, scores the steadier role no higher than the exposed one. -/
theorem automationRisk_score_monotone :
    (∀ c ∈ Policy.automationRisk.composites[0].components, 0.0 ≤ c.weight) ∧
    Policy.automationRisk.composites[0].scale.isFinite = true ∧
    0.0 ≤ Policy.automationRisk.composites[0].ceiling ∧
    (∀ c ∈ Policy.automationRisk.composites[0].components,
      Policy.automationRisk.composites[0].ReadsBelow steadierRole exposedRole c.signal) ∧
    (weightedSum (CompositeFormula.pairsOf
      (Policy.automationRisk.composites[0].componentsOf exposedRole))).isFinite = true ∧
    (Policy.automationRisk.composites[0].evaluate steadierRole).value ≤
        (Policy.automationRisk.composites[0].evaluate exposedRole).value ∧
      Policy.automationRisk.composites[0].tiers.rank
          (Policy.automationRisk.composites[0].evaluate steadierRole).value ≤
        Policy.automationRisk.composites[0].tiers.rank
          (Policy.automationRisk.composites[0].evaluate exposedRole).value ∧
      ∀ r₀ : Record, (Policy.automationRisk.composites[0].evaluate r₀).category =
        Policy.automationRisk.composites[0].tiers.labels.getD
          (Policy.automationRisk.composites[0].tiers.rank
            (Policy.automationRisk.composites[0].evaluate r₀).value)
          Policy.automationRisk.composites[0].tiers.catchAll := by
  have hw : ∀ c ∈ Policy.automationRisk.composites[0].components, 0.0 ≤ c.weight := by
    decide +kernel
  have hscale : Policy.automationRisk.composites[0].scale.isFinite = true := by decide +kernel
  have hceil : 0.0 ≤ Policy.automationRisk.composites[0].ceiling := by decide +kernel
  have hreads : ∀ c ∈ Policy.automationRisk.composites[0].components,
      Policy.automationRisk.composites[0].ReadsBelow steadierRole exposedRole c.signal := by
    decide +kernel
  have hsum : (weightedSum (CompositeFormula.pairsOf
      (Policy.automationRisk.composites[0].componentsOf exposedRole))).isFinite = true := by
    decide +kernel
  exact ⟨hw, hscale, hceil, hreads, hsum, evaluate_monotone hw hscale hceil hreads hsum⟩

/-- The finite weighted sum cannot be dropped: with the weight `1e308`, a
field read as `1` scores the full `100`, and the same field read as `2`
overflows the sum, which is scored `0`. -/
theorem overflowing_sum_scores_lower :
    ∃ (f : CompositeFormula) (r r' : Record), (∀ c ∈ f.components, 0.0 ≤ c.weight) ∧
      f.scale.isFinite = true ∧ 0.0 ≤ f.ceiling ∧ (∀ c ∈ f.components, f.ReadsBelow r r' c.signal) ∧
      (weightedSum (CompositeFormula.pairsOf (f.componentsOf r'))).isFinite = false ∧
      (f.evaluate r).value = 100.0 ∧ (f.evaluate r').value = 0.0 ∧
      (f.evaluate r).category = "high" ∧ (f.evaluate r').category = "low" :=
  ⟨⟨"score", 100.0, 100.0, [⟨"a", 1e308, .field "a"⟩], ⟨[(50.0, "low")], "high"⟩, "band"⟩,
    ⟨.salaryBenchmark, [("a", .number 1.0)]⟩, ⟨.salaryBenchmark, [("a", .number 2.0)]⟩,
    by decide +kernel⟩

end CareerInsight
