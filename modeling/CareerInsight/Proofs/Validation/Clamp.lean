import Mathlib
import CareerInsight.Proofs.Binary64.Convert
import CareerInsight.Proofs.Validation.Changes

/-!
# Clamping a number into its bounds

`Payload.clampNumeric` reads a payload value as a number and moves it into
`[lo, hi]`; anything that is not a number with a finite reading gives the
default.  With finite bounds and a default between them (`ClampLaws`):

* the result lies in the bounds, and a number already there is kept, to
  IEEE equality (a zero may change its sign);
* clamping is idempotent: the result, written as a JSON number and clamped
  again, comes back;
* clamping is monotone in the exact value of the JSON number, whatever its
  kind.  A large integer is read as its nearest float, and that reading is
  monotone (`JsonNumber.toFloat_le_toFloat`, from `Binary64.Convert`), so
  the order survives integers beyond `2 ^ 53` and negative ones alike.
-/

namespace CareerInsight

/-! ## Reading a JSON number -/

/-- A JSON number reads as the rounding of its exact value. -/
theorem JsonNumber.extValue_toFloat {m : JsonNumber} {q : Int} (h : m.exactValue? = some q) :
    m.toFloat.isNaN = false ∧ m.toFloat.extValue = Float.roundExt (q * 2 ^ 1074) := by
  cases m with
  | natural n =>
    simp only [exactValue?, Option.some.injEq] at h
    subst h
    exact Float.extValue_ofNat n
  | negative n =>
    simp only [exactValue?, Option.some.injEq] at h
    subst h
    exact Float.extValue_ofInt n
  | float x =>
    simp only [exactValue?] at h
    split at h
    · next hx =>
      cases h
      exact Float.extValue_eq_roundExt hx
    · cases h

/-- A JSON number of a larger exact value never reads as a smaller float. -/
theorem JsonNumber.toFloat_le_toFloat {m₁ m₂ : JsonNumber} {q₁ q₂ : Int}
    (h₁ : m₁.exactValue? = some q₁) (h₂ : m₂.exactValue? = some q₂) (hq : q₁ ≤ q₂) :
    m₁.toFloat ≤ m₂.toFloat :=
  Float.le_of_roundExt (extValue_toFloat h₁) (extValue_toFloat h₂)
    (Int.mul_le_mul_of_nonneg_right hq (by positivity))

namespace Payload

variable {lo hi d : Float}

/-! ## The clamp of a finite float -/

/-- Clamping keeps the order of finite floats. -/
theorem clampFloat_le_clampFloat {x y : Float} (hx : x.isFinite = true) (hy : y.isFinite = true)
    (hlo : lo.isFinite = true) (hhi : hi.isFinite = true) (h : x ≤ y) :
    clampFloat x lo hi d ≤ clampFloat y lo hi d := by
  obtain ⟨hfx, hsx⟩ := clampFloat_spec (d := d) hx hlo hhi
  obtain ⟨hfy, hsy⟩ := clampFloat_spec (d := d) hy hlo hhi
  rw [Float.le_iff_scaled hx hy] at h
  rw [Float.le_iff_scaled hfx hfy, hsx, hsy]
  omega

/-! ## The clamp of a payload value -/

/-- The clamp of any value is a finite float within the bounds. -/
theorem clampNumeric_mem_bounds (hlo : lo.isFinite = true) (hhi : hi.isFinite = true)
    (hd₁ : lo ≤ d) (hd₂ : d ≤ hi) (v : Option Json) :
    (clampNumeric v lo hi d).isFinite = true ∧ lo ≤ clampNumeric v lo hi d ∧
      clampNumeric v lo hi d ≤ hi := by
  have hc : (clampNumeric v lo hi d).Within lo hi := clampNumeric_within hlo hhi hd₁ hd₂
  obtain ⟨hf, h₁, h₂⟩ := hc
  exact ⟨hf, (Float.le_iff_scaled hlo hf).2 h₁, (Float.le_iff_scaled hf hhi).2 h₂⟩

/-- A number whose reading is finite and within the bounds is kept. -/
theorem clampNumeric_of_within {m : JsonNumber} (hlo : lo.isFinite = true)
    (hhi : hi.isFinite = true) (hf : m.toFloat.isFinite = true) (h₁ : lo ≤ m.toFloat)
    (h₂ : m.toFloat ≤ hi) : (clampNumeric (some (.number m)) lo hi d == m.toFloat) = true := by
  have h₁' := (Float.le_iff_scaled hlo hf).1 h₁
  have h₂' := (Float.le_iff_scaled hf hhi).1 h₂
  have hcf := (clampFloat_spec (d := d) hf hlo hhi).1
  show (clampFloat m.toFloat lo hi d == m.toFloat) = true
  rw [Float.beq_iff_scaled hcf hf, scaled_clampFloat hf hlo hhi h₁' h₂']

/-- A value that is not a number with a finite reading gives the default. -/
theorem clampNumeric_of_not_finite {v : Option Json}
    (h : ∀ m, v = some (.number m) → m.toFloat.isFinite = false) : clampNumeric v lo hi d = d := by
  rcases v with _ | ⟨_ | _ | m | _ | _ | _⟩ <;> try rfl
  simp [clampNumeric, number?, clampFloat, h m rfl]

/-- The clamp of any value, as a JSON number, is clamped to itself. -/
theorem clampNumeric_clampNumeric (hlo : lo.isFinite = true) (hhi : hi.isFinite = true)
    (hd₁ : lo ≤ d) (hd₂ : d ≤ hi) (v : Option Json) :
    (clampNumeric (some (Json.ofFloat (clampNumeric v lo hi d))) lo hi d ==
      clampNumeric v lo hi d) = true := by
  obtain ⟨hf, h₁, h₂⟩ := clampNumeric_mem_bounds hlo hhi hd₁ hd₂ v
  rw [Json.ofFloat, if_pos hf]
  exact clampNumeric_of_within (m := .float _) hlo hhi hf h₁ h₂

/-! ## The laws of clamping -/

/-- What clamping into `[lo, hi]` with the default `d` promises. -/
structure ClampLaws (lo hi d : Float) : Prop where
  /-- The result lies in the bounds. -/
  within : ∀ v, lo ≤ clampNumeric v lo hi d ∧ clampNumeric v lo hi d ≤ hi
  /-- A number whose reading is finite and within the bounds is kept. -/
  keeps : ∀ m : JsonNumber, m.toFloat.isFinite = true → lo ≤ m.toFloat → m.toFloat ≤ hi →
    (clampNumeric (some (.number m)) lo hi d == m.toFloat) = true
  /-- Anything but a number with a finite reading gives the default. -/
  default_of_not_finite : ∀ v, (∀ m, v = some (.number m) → m.toFloat.isFinite = false) →
    clampNumeric v lo hi d = d
  /-- The result, as a JSON number, is clamped to itself. -/
  idempotent : ∀ v,
    (clampNumeric (some (Json.ofFloat (clampNumeric v lo hi d))) lo hi d == clampNumeric v lo hi d) = true
  /-- Numbers with finite readings are clamped in the order of their exact values. -/
  monotone : ∀ (m₁ m₂ : JsonNumber) (q₁ q₂ : Int), m₁.exactValue? = some q₁ →
    m₂.exactValue? = some q₂ → m₁.toFloat.isFinite = true → m₂.toFloat.isFinite = true →
    q₁ ≤ q₂ → clampNumeric (some (.number m₁)) lo hi d ≤ clampNumeric (some (.number m₂)) lo hi d

/-- With finite bounds and a default between them, which orders the bounds,
clamping keeps every law of `ClampLaws`. -/
theorem clampNumeric_laws (hlo : lo.isFinite = true) (hhi : hi.isFinite = true) (hd₁ : lo ≤ d)
    (hd₂ : d ≤ hi) : ClampLaws lo hi d where
  within v := (clampNumeric_mem_bounds hlo hhi hd₁ hd₂ v).2
  keeps _ hf h₁ h₂ := clampNumeric_of_within hlo hhi hf h₁ h₂
  default_of_not_finite _ h := clampNumeric_of_not_finite h
  idempotent := clampNumeric_clampNumeric hlo hhi hd₁ hd₂
  monotone _ _ _ _ h₁ h₂ hf₁ hf₂ hq :=
    clampFloat_le_clampFloat hf₁ hf₂ hlo hhi (JsonNumber.toFloat_le_toFloat h₁ h₂ hq)

/-- The laws hold for a percentage field: bounds `0` and `100`, default `50`. -/
theorem percent_clampLaws :
    (0.0 : Float).isFinite = true ∧ (100.0 : Float).isFinite = true ∧ (0.0 : Float) ≤ 50.0 ∧
      (50.0 : Float) ≤ 100.0 ∧ ClampLaws 0.0 100.0 50.0 := by
  have hlo : (0.0 : Float).isFinite = true := by decide +kernel
  have hhi : (100.0 : Float).isFinite = true := by decide +kernel
  have hd₁ : (0.0 : Float) ≤ 50.0 := by decide +kernel
  have hd₂ : (50.0 : Float) ≤ 100.0 := by decide +kernel
  exact ⟨hlo, hhi, hd₁, hd₂, clampNumeric_laws hlo hhi hd₁ hd₂⟩

example : clampNumeric (some (.number (.negative (-12)))) 0.0 100.0 50.0 = 0.0 ∧
    clampNumeric (some (.number (.natural 7))) 0.0 10.0 0.0 = 7.0 ∧
    clampNumeric (some (.string "72000")) 0.0 1.0 0.25 = 0.25 := by
  decide +kernel

end Payload

end CareerInsight
