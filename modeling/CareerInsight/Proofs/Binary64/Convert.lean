import Mathlib
import CareerInsight.Proofs.Binary64.Rounding
import CareerInsight.Proofs.Binary64.Exact

/-!
# Integers convert to the rounding of their value

`Binary64.Exact` shows that an integer which is the value of a float
converts to exactly that float.  Every other integer is rounded, and this
file says how: `Float.ofNat n` and `Float.ofInt n` have the extended value
`roundExt` of `n`, overflow to an infinity included.  Since `roundExt` is
monotone (`Binary64.Rounding`), so is every conversion of an integer to a
float, across the range where integers stop being floats.

* `roundExt_signedValue`: the value of a canonical float is a fixed point of
  rounding, so a finite float is the rounding of its own value
  (`extValue_eq_roundExt`).
* `extValue_ofNat`: up to `2 ^ 53` the conversion is exact; above, the
  model's decimal reader rounds `n` given with 53 extra bits.
* `extValue_neg` and `extValue_ofInt`: negation rounds the negated value,
  on finite floats and on the infinities alike, so a negative integer
  converts to the rounding of its value too.
-/

open Float.Model Float.Model.UnpackedFloat

namespace Float

/-! ## Finite floats are their own rounding -/

/-- The value of a canonical float is a fixed point of rounding. -/
theorem roundExt_signedValue (s : Sign) {m : Nat} {e : Int} (h : Canonical m e) :
    roundExt (signedValue s m e * 2 ^ 1074) =
      ((signedValue s m e : WithTop Int) : WithBot (WithTop Int)) := by
  let z : Float := .ofModel (Float.Model.pack (build s m e))
  obtain ⟨-, hz⟩ := extValue_of_roundsTo (z := z) (roundsTo_build s h) rfl
  obtain ⟨hf, hs⟩ := scaled_of_unpack (x := z) (unpack_pack_build h)
  rw [← hz, extValue_of_isFinite hf, hs]

/-- A finite float is the rounding of its own value. -/
theorem extValue_eq_roundExt {x : Float} (hx : x.isFinite = true) :
    x.isNaN = false ∧ x.extValue = roundExt (x.scaled * 2 ^ 1074) := by
  refine ⟨isNaN_eq_false hx, ?_⟩
  rw [extValue_of_isFinite hx, scaled, roundExt_signedValue _ (canonical_of_isFinite hx)]

/-! ## Natural numbers -/

theorem natAbs_mul_two_pow (n a b : Nat) : ((n : Int) * 2 ^ a * 2 ^ b).natAbs = n * 2 ^ (a + b) := by
  rw [Int.natAbs_mul, Int.natAbs_mul, Int.natAbs_pow, Int.natAbs_pow, Int.natAbs_natCast,
    Nat.mul_assoc, ← Nat.pow_add]
  rfl

/-- A natural number converts to the rounding of its value, overflow included.
The decimal reader is handed `n` with 53 extra bits below the point, and
rounds that. -/
theorem extValue_ofNat (n : Nat) :
    (Float.ofNat n).isNaN = false ∧
      (Float.ofNat n).extValue = roundExt (n * 2 ^ 1074 * 2 ^ 1074) := by
  by_cases hn : n ≤ 2 ^ 53
  · obtain ⟨hf, hs⟩ := ofNat_spec hn
    rw [← hs]
    exact extValue_eq_roundExt hf
  · have hpos : 0 < n * 2 ^ 53 := Nat.mul_pos (by omega) (Nat.two_pow_pos 53)
    have hT : (-53 : Int) ≤ Format.binary64.targetExponent (totalExponent (n * 2 ^ 53) (-53)) := by
      rw [targetExponent_eq, log2_mul_two_pow (by omega) 53]
      omega
    obtain ⟨m, e, hround, hr, hv⟩ := roundWithAccuracy_spec .positive hpos (by omega) hT
    have hto : (Float.ofNat n).toModel = Float.Model.pack (build .positive m e) := by
      rw [ofNat_toModel (by omega), ofScientific_zero (by omega), hround]
    have h0 : (0 : Int) ≤ n * 2 ^ 1074 * 2 ^ 1074 :=
      Int.mul_nonneg (Int.mul_nonneg (Int.natCast_nonneg n) (pow_nonneg (by decide) _))
        (pow_nonneg (by decide) _)
    have habs : ((n : Int) * 2 ^ 1074 * 2 ^ 1074).natAbs =
        n * 2 ^ 53 * 2 ^ ((-53 : Int) + 2148).toNat := by
      rw [natAbs_mul_two_pow, Nat.mul_assoc, ← Nat.pow_add]
      congr 2
    refine extValue_of_roundsTo ⟨.positive, m, e, rfl, hr, by rw [hv, habs], ?_⟩ hto
    rw [Int.natAbs_of_nonneg h0]
    rfl

/-! ## Negation -/

theorem unpack_pack_infinity (s : Sign) : (Float.Model.pack (.infinity s)).unpack = .infinity s := by
  cases s <;> rfl

/-- Negating an infinity gives the infinity of the other sign. -/
theorem neg_of_infinite {x : Float} (hf : x.isFinite = false) (hn : x.isNaN = false) :
    (-x).isFinite = false ∧ (-x).isNaN = false ∧ (-x).sign = -x.sign := by
  have hu : (-x).toModel.unpack = .infinity (-x.sign) := by
    show (Float.Model.pack x.toModel.unpack.neg).unpack = _
    rw [toModel_unpack_of_infinite hf hn]
    exact unpack_pack_infinity _
  have hf' : (-x).isFinite = false := by
    show (-x).toModel.unpack.isFinite = false
    rw [hu]
    rfl
  have hn' : (-x).isNaN = false := by
    rw [isNaN_eq_unpack, hu]
    rfl
  have hs := toModel_unpack_of_infinite hf' hn'
  rw [hu, UnpackedFloat.infinity.injEq] at hs
  exact ⟨hf', hn', hs.symm⟩

theorem signExtreme_inj {s t : Sign} (h : signExtreme s = signExtreme t) : s = t := by
  cases s <;> cases t <;> first | rfl | cases h

theorem signExtreme_ne_coe (s : Sign) (v : Int) :
    signExtreme s ≠ ((v : WithTop Int) : WithBot (WithTop Int)) := by
  cases s <;> simp [signExtreme]

/-- Negation moves the extended value `extOf s r` to `extOf (-s) r`. -/
theorem extValue_neg_of_extOf {x : Float} {s : Sign} {r : Nat} (hn : x.isNaN = false)
    (h : x.extValue = extOf s r) : (-x).isNaN = false ∧ (-x).extValue = extOf (-s) r := by
  by_cases hr : r < 2 ^ 2098
  · rw [extOf, if_pos hr] at h
    have hf : x.isFinite = true := by
      cases hfx : x.isFinite
      · rw [extValue_of_infinite hfx] at h
        exact absurd h (signExtreme_ne_coe _ _)
      · rfl
    obtain ⟨hf', hs'⟩ := neg_spec hf
    rw [extValue_of_isFinite hf] at h
    have hxs : x.scaled = s.apply r := WithTop.coe_injective (WithBot.coe_injective h)
    refine ⟨isNaN_eq_false hf', ?_⟩
    rw [extValue_of_isFinite hf', hs', hxs, extOf, if_pos hr, apply_neg_sign]
  · rw [extOf, if_neg hr] at h
    have hf : x.isFinite = false := by
      cases hfx : x.isFinite
      · rfl
      · rw [extValue_of_isFinite hfx] at h
        exact absurd h.symm (signExtreme_ne_coe _ _)
    obtain ⟨hf', hn', hsign⟩ := neg_of_infinite hf hn
    rw [extValue_of_infinite hf] at h
    refine ⟨hn', ?_⟩
    rw [extValue_of_infinite hf', hsign, signExtreme_inj h, extOf, if_neg hr]

/-- Zero has the same extended value with either sign. -/
theorem extOf_zero (s t : Sign) : extOf s 0 = extOf t 0 := by
  unfold extOf
  split_ifs with h
  · rw [Nat.cast_zero, apply_zero, apply_zero]
  · exact absurd (by positivity) h

/-- A negated float is the rounding of the negated value.  The magnitude
stays; the sign flips unless the value is zero. -/
theorem extValue_neg {x : Float} {V : Int} (h : x.isNaN = false ∧ x.extValue = roundExt V) :
    (-x).isNaN = false ∧ (-x).extValue = roundExt (-V) := by
  obtain ⟨hn, hx⟩ := extValue_neg_of_extOf h.1 h.2
  refine ⟨hn, hx.trans ?_⟩
  unfold roundExt
  rw [Int.natAbs_neg]
  rcases lt_trichotomy V 0 with hV | rfl | hV
  · rw [if_pos hV, if_neg (by omega)]
    rfl
  · rw [Int.natAbs_zero, roundUnits_zero]
    exact extOf_zero _ _
  · rw [if_neg (by omega), if_pos (by omega)]
    rfl

/-- An integer converts to the rounding of its value, overflow included.  A
negative integer converts as its magnitude, negated. -/
theorem extValue_ofInt (n : Int) :
    (Float.ofInt n).isNaN = false ∧
      (Float.ofInt n).extValue = roundExt (n * 2 ^ 1074 * 2 ^ 1074) := by
  cases n with
  | ofNat k => exact extValue_ofNat k
  | negSucc k =>
    have h := extValue_neg (extValue_ofNat (k + 1))
    rw [Nat.cast_add, Nat.cast_one, ← Int.neg_mul, ← Int.neg_mul, ← Int.negSucc_eq] at h
    exact h

/-- Converting integers to floats keeps their order. -/
theorem ofInt_le_ofInt {a b : Int} (h : a ≤ b) : Float.ofInt a ≤ Float.ofInt b :=
  le_of_roundExt (extValue_ofInt a) (extValue_ofInt b)
    (Int.mul_le_mul_of_nonneg_right (Int.mul_le_mul_of_nonneg_right h (by positivity)) (by positivity))

example : Float.ofInt (2 ^ 53 + 1) ≤ Float.ofInt (2 ^ 53 + 2) := ofInt_le_ofInt (by decide)

end Float
