import Mathlib
import CareerInsight.Proofs.Binary64.Integer
import CareerInsight.Insight.Invariant

/-!
# Composite scores pass their own checks

A composite is recomputed from the repaired record and never read from the
model, so its checks can only fail through the arithmetic of `compose`.
This file shows they never do once the ceiling is at least zero.

* `compose_spec`: whatever the components, the score is a finite number in
  `[0, ceiling]`.  A sum that overflows or is NaN gives `0`, a negative sum
  is raised to `0`, and the ceiling is taken only in place of a larger
  finite value, so even an infinite ceiling is never the score.
* `checkComposite_scores`: in a record scored under a policy whose
  composite fields are distinct, every composite is found, lies in its
  bounds, is within `1e-9` of its recomputation (a finite float minus itself
  is `0`) and carries the category of its own value.
-/


namespace CareerInsight

theorem zero_isFinite : (0.0 : Float).isFinite = true := by decide

/-- Raising a finite value to zero and then lowering it to a ceiling that is
at least zero lands in `[0, ceiling]`; the ceiling itself is taken only when
it is below a finite value, so the result is always finite. -/
theorem clampScore_spec {x ceiling : Float} (hx : x.isFinite = true) (h0 : 0.0 ≤ ceiling) :
    (clampScore x ceiling).isFinite = true ∧ ¬ clampScore x ceiling < 0.0 ∧
      ¬ ceiling < clampScore x ceiling := by
  have hraised : (if x < 0.0 then 0.0 else x).isFinite = true ∧
      ¬ (if x < 0.0 then 0.0 else x) < 0.0 := by
    split
    · exact ⟨zero_isFinite, Float.lt_irrefl _⟩
    · exact ⟨hx, ‹_›⟩
  unfold clampScore
  generalize (if x < 0.0 then 0.0 else x) = raised at hraised ⊢
  dsimp only
  split
  · next hc =>
    have hcf := Float.isFinite_of_le_of_le zero_isFinite hraised.1 h0 (Float.le_of_lt hc)
    exact ⟨hcf, Float.not_lt_of_le h0, Float.lt_irrefl _⟩
  · next hc => exact ⟨hraised.1, hraised.2, hc⟩

/-- A composite score is a finite number in `[0, ceiling]` whatever the
components are, as long as the ceiling is at least zero. -/
theorem compose_spec (pairs : List (Float × Float)) {ceiling : Float} (h0 : 0.0 ≤ ceiling) :
    (compose pairs ceiling).isFinite = true ∧ ¬ compose pairs ceiling < 0.0 ∧
      ¬ ceiling < compose pairs ceiling := by
  unfold compose
  dsimp only
  split
  · exact clampScore_spec ‹_› h0
  · exact ⟨zero_isFinite, Float.lt_irrefl _, Float.not_lt_of_le h0⟩

example : compose [(0.30, 80.0), (0.25, 60.0), (0.25, 70.0), (0.20, 50.0)] 85.0 = 66.5 ∧
    compose [(0.5, 100.0), (0.5, 100.0)] 85.0 = 85.0 ∧ compose [(1.0, -40.0)] 85.0 = 0.0 ∧
    compose [(1.0, 0.0 / 0.0)] 85.0 = 0.0 := by
  decide +kernel

/-- Among the composites of distinct fields, the one a field names is the
formula's own. -/
theorem find?_scoreRecord {formulas : List CompositeFormula} (r : Record)
    (hnd : (formulas.map (·.field)).Nodup) {c : CompositeFormula} (hc : c ∈ formulas) :
    (scoreRecord r formulas).find? (·.field == c.field) = some (c.evaluate r) := by
  induction formulas with
  | nil => cases hc
  | cons c' rest ih =>
    rw [List.map_cons, List.nodup_cons] at hnd
    rcases List.mem_cons.1 hc with rfl | hc'
    · simp [scoreRecord, CompositeFormula.evaluate, CompositeFormula.scoreOf]
    · have hne : c'.field ≠ c.field := fun h => hnd.1 (h ▸ List.mem_map_of_mem hc')
      show ((c'.evaluate r) :: scoreRecord r rest).find? _ = _
      rw [List.find?_cons_of_neg (by simpa [CompositeFormula.evaluate, CompositeFormula.scoreOf] using hne),
        ih hnd.2 hc']

/-- Every composite of a record scored under a policy passes its checks:
present, finite, in `[0, ceiling]`, equal to its own recomputation and
labelled with its own category. -/
theorem checkComposite_scores (p : Policy) (r : Record) (source : RecordSource)
    (hnd : (p.composites.map (·.field)).Nodup) {c : CompositeFormula} (hc : c ∈ p.composites)
    (h0 : 0.0 ≤ c.ceiling) :
    (⟨r, p.scores r, source⟩ : ScoredRecord).checkComposite c = .ok () := by
  obtain ⟨hf, hneg, hceil⟩ := compose_spec (CompositeFormula.pairsOf (c.componentsOf r)) h0
  have hfind : (⟨r, p.scores r, source⟩ : ScoredRecord).composite? c.field = some (c.evaluate r) :=
    find?_scoreRecord r hnd hc
  unfold ScoredRecord.checkComposite
  rw [hfind]
  dsimp only
  have hv : (c.evaluate r).value = compose (CompositeFormula.pairsOf (c.componentsOf r)) c.ceiling :=
    rfl
  rw [hv, if_neg (by simp only [Float.isNaN_eq_false hf, Bool.false_or, decide_eq_false hneg,
      Bool.false_eq_true, not_false_eq_true]), if_neg hceil, Float.abs_sub_self hf,
    if_neg (by decide)]
  simp [CompositeFormula.evaluate, CompositeFormula.scoreOf]

end CareerInsight
