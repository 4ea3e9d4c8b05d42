import Mathlib
import CareerInsight.Proofs.Validation.Groups

/-!
# Group sizes and their floor

A cohort floor `k` keeps a group size that rounds to at least `k` and
stores `k` in place of anything else.  The rounded size is compared with
`k` as floats, which is exact where every integer is a float, for
`|k| ≤ 2 ^ 53`; there the rule is the one its name promises.

* `enforceFloor_eq_max`: a finite number is stored as the larger of `k`
  and the number rounded half away from zero and saturated to 64 bits.
* `floorRepair_eq_belowFloor_iff`: a size is reported below the floor
  exactly when `k` was stored in its place and `k` is not its rounded value.
* `get?_validate_cohortFloor`: validation stores that value in a floor
  field that no other constraint owns and no ordering group names.
* `cohortFloor_kept_above` puts them together: such a field never leaves
  validation below its floor.  The example after it shows why the
  ordering groups are excluded: a group that lists a floor field before a
  smaller value moves that value into it.
-/

/-! ## Rounding against the floor -/

namespace Float

/-- A finite float rounds to a whole number `q`, and saturating it gives
`q` clamped to the signed 64-bit range. -/
theorem exists_roundHalfAway_whole {x : Float} (hx : x.isFinite = true) :
    ∃ q : Int, x.roundHalfAway.isFinite = true ∧ x.roundHalfAway.scaled = q * 2 ^ 1074 ∧
      x.roundHalfAway.toIntSat = max int64Min (min int64Max q) := by
  obtain ⟨hf, hr⟩ := roundHalfAway_spec hx
  obtain ⟨q, hq⟩ := roundHalfAwayUnits_eq_mul x.scaled
  exact ⟨q, hf, hr.trans hq, toIntSat_of_scaled hf (hr.trans hq)⟩

/-- Against a whole number of units, the order of floats is the order of
the whole numbers. -/
theorem ofInt_le_iff {k q : Int} (hk : k.natAbs ≤ 2 ^ 53) {y : Float} (hy : y.isFinite = true)
    (hq : y.scaled = q * 2 ^ 1074) : Float.ofInt k ≤ y ↔ k ≤ q := by
  obtain ⟨hkf, hks⟩ := ofInt_spec hk
  rw [le_iff_scaled hkf hy, hks, hq]
  exact Int.mul_le_mul_right (by positivity)

theorem lt_ofInt_iff {k q : Int} (hk : k.natAbs ≤ 2 ^ 53) {y : Float} (hy : y.isFinite = true)
    (hq : y.scaled = q * 2 ^ 1074) : y < Float.ofInt k ↔ q < k := by
  obtain ⟨hkf, hks⟩ := ofInt_spec hk
  rw [lt_iff_scaled hy hkf, hks, hq]
  exact Int.mul_lt_mul_right (by positivity)

end Float

namespace CareerInsight

namespace Payload

section Floor

variable {k : Int} (hk : k.natAbs ≤ 2 ^ 53)
include hk

/-- On a finite number the floor stores the larger of `k` and the rounded,
saturated number.  The floor `k` lies strictly inside the 64-bit range, so
saturation never crosses it. -/
theorem enforceFloor_eq_max {m : JsonNumber} (hf : m.toFloat.isFinite = true) :
    enforceFloor (some (.number m)) k = max k m.toFloat.roundHalfAway.toIntSat := by
  obtain ⟨q, hrf, hrs, hsat⟩ := Float.exists_roundHalfAway_whole hf
  have hle := Float.ofInt_le_iff hk hrf hrs
  simp only [enforceFloor, number?, hf, Bool.true_and, decide_eq_true_eq]
  rw [hsat]
  simp only [Float.int64Min_def, Float.int64Max_def] at *
  split_ifs with h
  · have := hle.1 h
    omega
  · have := mt hle.2 h
    omega

/-- On a finite number a size is reported below the floor exactly when the
floor stored `k` in its place and `k` is not the rounded number. -/
theorem floorRepair_eq_belowFloor_iff {m : JsonNumber} (hf : m.toFloat.isFinite = true) :
    floorRepair (some (.number m)) k = some .belowFloor ↔
      enforceFloor (some (.number m)) k = k ∧ m.toFloat.roundHalfAway.scaled ≠ k * 2 ^ 1074 := by
  obtain ⟨q, hrf, hrs, hsat⟩ := Float.exists_roundHalfAway_whole hf
  have hlt := Float.lt_ofInt_iff hk hrf hrs
  rw [enforceFloor_eq_max hk hf, hsat, hrs]
  simp only [floorRepair, number?, hf, Bool.not_true, Bool.false_eq_true, if_false]
  have hne : q * 2 ^ 1074 ≠ k * 2 ^ 1074 ↔ q ≠ k :=
    not_congr (mul_left_inj' (by positivity : (2 : Int) ^ 1074 ≠ 0))
  rw [hne]
  rw [Float.int64Min_def, Float.int64Max_def]
  split_ifs with h
  · have := hlt.1 h
    simp only [true_iff]
    omega
  · have := mt hlt.2 h
    simp only [false_iff, not_and, not_not]
    omega

end Floor

/- A size is rounded half away from zero before it meets the floor. -/
example : enforceFloor (some (.number (.float 9.4))) 10 = 10 ∧
    enforceFloor (some (.number (.float 10.5))) 10 = 11 ∧
    enforceFloor (some (.number (.natural 50))) 10 = 50 := by
  decide +kernel

end Payload

/-! ## Validation keeps the floor -/

namespace Validation

/-- When every constraint that owns a field writes the same value into it,
and one of them is in the list, the field phase ends with that value. -/
theorem get?_foldl_applyField_of_owners (raw : Json.Fields) {f : String} {val : FieldValue} :
    ∀ (specs : List FieldSpec) (v : Validation),
      (∀ s ∈ specs, s.owner? = some f → ∃ r, s.repairField raw = some (f, val, r)) →
      (∃ s ∈ specs, s.owner? = some f) → (specs.foldl (applyField raw) v).record.get? f = some val := by
  intro specs
  induction specs with
  | nil =>
    intro v _ hex
    obtain ⟨s, hs, -⟩ := hex
    cases hs
  | cons s rest ih =>
    intro v hall hex
    rw [List.foldl_cons]
    by_cases hlater : ∃ s' ∈ rest, s'.owner? = some f
    · exact ih _ (fun t ht => hall t (List.mem_cons_of_mem s ht)) hlater
    · have hown : s.owner? = some f := by
        obtain ⟨t, ht, htf⟩ := hex
        rcases List.mem_cons.1 ht with rfl | ht
        · exact htf
        · exact absurd ⟨t, ht, htf⟩ hlater
      have hunowned : ∀ t ∈ rest, t.owner? ≠ some f := fun t ht htf => hlater ⟨t, ht, htf⟩
      obtain ⟨r, hrep⟩ := hall s List.mem_cons_self hown
      rw [get?_foldl_applyField_of_unowned raw rest _ hunowned, record_applyField, hrep]
      simp

end Validation

/-- A floor field that no other constraint owns and no ordering group names
leaves validation with the value its floor stored. -/
theorem get?_validate_cohortFloor {specs : List FieldSpec} {f : String} {k : Int}
    (hmem : .cohortFloor f k ∈ specs) (hown : ∀ s ∈ specs, s.owner? = some f → s = .cohortFloor f k)
    (hg : f ∉ specs.flatMap FieldSpec.members) (domain : Domain) (raw : Json.Fields) :
    (validate domain raw specs).record.get? f =
      some (.integer (Payload.enforceFloor (raw.lookup f) k)) := by
  unfold validate
  dsimp only
  rw [Validation.get?_foldl_applyOrdering_of_not_mem specs _ hg]
  refine Validation.get?_foldl_applyField_of_owners raw specs _ (fun s hs hsf => ?_)
    ⟨_, hmem, rfl⟩
  rw [hown s hs hsf]
  exact ⟨_, rfl⟩

/-- A cohort floor `k` with `|k| ≤ 2 ^ 53` is kept: the stored size is never
below `k`; on a finite number it is the larger of `k` and the rounded,
saturated number; a size is reported below the floor exactly when `k` was
stored in its place and differs from its rounded value; and a floor field
that no other constraint owns and no ordering group names leaves validation
at or above `k`. -/
theorem cohortFloor_kept_above {k : Int} (hk : k.natAbs ≤ 2 ^ 53) :
    (∀ input : Option Json, k ≤ Payload.enforceFloor input k) ∧
    (∀ m : JsonNumber, m.toFloat.isFinite = true →
      Payload.enforceFloor (some (.number m)) k = max k m.toFloat.roundHalfAway.toIntSat ∧
      (Payload.floorRepair (some (.number m)) k = some .belowFloor ↔
        Payload.enforceFloor (some (.number m)) k = k ∧
          m.toFloat.roundHalfAway.scaled ≠ k * 2 ^ 1074)) ∧
    ∀ (domain : Domain) (raw : Json.Fields) (specs : List FieldSpec) (f : String),
      .cohortFloor f k ∈ specs → (∀ s ∈ specs, s.owner? = some f → s = .cohortFloor f k) →
      f ∉ specs.flatMap FieldSpec.members →
      ∃ n, (validate domain raw specs).record.get? f = some (.integer n) ∧ k ≤ n := by
  refine ⟨fun _ => Payload.le_enforceFloor hk, fun m hf =>
    ⟨Payload.enforceFloor_eq_max hk hf, Payload.floorRepair_eq_belowFloor_iff hk hf⟩, ?_⟩
  intro domain raw specs f hmem hown hg
  exact ⟨_, get?_validate_cohortFloor hmem hown hg domain raw, Payload.le_enforceFloor hk⟩

/-- The floor of ten that the built-in group sizes use is kept. -/
theorem floorTen_kept_above :
    (10 : Int).natAbs ≤ 2 ^ 53 ∧
    (∀ input : Option Json, 10 ≤ Payload.enforceFloor input 10) ∧
    (∀ m : JsonNumber, m.toFloat.isFinite = true →
      Payload.enforceFloor (some (.number m)) 10 = max 10 m.toFloat.roundHalfAway.toIntSat ∧
      (Payload.floorRepair (some (.number m)) 10 = some .belowFloor ↔
        Payload.enforceFloor (some (.number m)) 10 = 10 ∧
          m.toFloat.roundHalfAway.scaled ≠ 10 * 2 ^ 1074)) ∧
    ∀ (domain : Domain) (raw : Json.Fields) (specs : List FieldSpec) (f : String),
      .cohortFloor f 10 ∈ specs → (∀ s ∈ specs, s.owner? = some f → s = .cohortFloor f 10) →
      f ∉ specs.flatMap FieldSpec.members →
      ∃ n, (validate domain raw specs).record.get? f = some (.integer n) ∧ 10 ≤ n :=
  ⟨by decide, cohortFloor_kept_above (by decide)⟩

/- An ordering group can move a smaller value into a floor field: with a
floor of `10` on `x` and the group `[x, y]`, the payload `x = 20, y = 5`
leaves validation with `x = 5`. -/
example :
    (validate .salaryBenchmark [("x", .number (.natural 20)), ("y", .number (.natural 5))]
      [.cohortFloor "x" 10, .float "y" 0.0 100.0 50.0, .ordering ["x", "y"]]).record.get? "x" =
      some (.integer 5) := by
  have hfield : [FieldSpec.cohortFloor "x" 10, .float "y" 0.0 100.0 50.0, .ordering ["x", "y"]].foldl
      (Validation.applyField [("x", .number (.natural 20)), ("y", .number (.natural 5))])
      ⟨Record.empty .salaryBenchmark, []⟩ =
      ⟨⟨.salaryBenchmark, [("x", .integer 20), ("y", .number 5.0)]⟩, []⟩ := by
    rfl
  have hsort : (⟨.salaryBenchmark, [("x", .integer 20), ("y", .number 5.0)]⟩ : Record).reorder
      ["x", "y"] = (⟨.salaryBenchmark, [("x", .integer 5), ("y", .number 20.0)]⟩,
        [⟨"x", .reordered⟩, ⟨"y", .reordered⟩]) := by
    unfold Record.reorder
    rw [show ["x", "y"].mapM _ = some [20.0, 5.0] from rfl]
    dsimp only
    rw [Float.sortTotal_pair (by decide)]
    rfl
  unfold validate
  dsimp only
  rw [hfield]
  simp only [List.foldl_cons, List.foldl_nil, Validation.applyOrdering, FieldSpec.float, hsort]
  rfl

end CareerInsight
