import Mathlib
import CareerInsight.Proofs.Binary64.Integer

/-!
# Whole numbers that are floats

`Binary64.Integer` converts integers of magnitude at most `2 ^ 53`, where
every integer is a float.  Above that range only some integers are floats,
but those convert exactly too: a natural number read from a document
becomes the float of exactly its value whenever that value is a float at
all.  This is what lets a stored integer be read back unchanged.

* `ofNat_spec_of_scaled` and `ofInt_spec_of_scaled`: an integer that is the
  value of a finite float converts to a float of exactly that value.  Above
  `2 ^ 53` the conversion goes through the general decimal reader, whose
  rounding is exact on such a value (`ofScientific_zero`).
* `exists_scaled_tdiv`: a finite float truncated toward zero is again the
  value of a finite float.
* `ofInt_toIntSat`: a float truncated to a signed 64-bit integer converts
  back to a finite float whose value is a whole number that saturates to
  the same integer.  At the top of the range the conversion rounds
  (`2 ^ 63 - 1` becomes `2 ^ 63`), and saturation takes it back.
-/

open Float.Model Float.Model.UnpackedFloat

namespace Float

/-! ## The general reader on whole numbers -/

/-- Beyond `2 ^ 53` a natural number is converted by the model's decimal
reader. -/
theorem ofNat_toModel {n : Nat} (h : 2 ^ 53 < n) :
    (Float.ofNat n).toModel = Float.Model.pack (UnpackedFloat.ofScientific Format.binary64 n 0) := by
  show (Float.ofScientific n false 0).toModel = _
  rw [Float.ofScientific, dif_neg (by omega)]
  rfl

/-- With no decimal exponent, the reader rounds the number itself, given
with 53 extra bits below the binary point. -/
theorem ofScientific_zero {n : Nat} (h : 0 < n) :
    UnpackedFloat.ofScientific Format.binary64 n 0 =
      roundWithAccuracy Format.binary64 .positive (n * 2 ^ 53) (-53) .exact := by
  have hn : n ≠ 0 := by omega
  simp only [UnpackedFloat.ofScientific, hn, dite_false]
  rw [if_neg (by decide), if_neg (by omega), if_pos (le_refl _)]
  simp only [UnpackedFloat.mul, Nat.shiftLeft_eq]
  rw [show Format.binary64.mantissaBits = 53 from rfl]
  simp only [Int.toNat_zero, Nat.pow_zero, Nat.mul_one, Int.add_zero]
  rfl

/-! ## Integers that are the values of floats -/

/-- A float of positive value has the magnitude of its significand and
exponent as its value. -/
theorem scaled_of_pos {x : Float} (h : 0 < x.scaled) :
    x.scaled = scaleMag x.significand x.binaryExponent := by
  rw [scaled_eq] at h ⊢
  cases hb : x.signBit
  · rfl
  · simp only [hb, if_true] at h
    omega

/-- A finite float whose value is a natural number above `2 ^ 53` has a
positive exponent, and the number is its significand shifted by it.  At an
exponent of at most zero the value would stay below the significand. -/
theorem eq_significand_mul {x : Float} {n : Nat} (hx : x.isFinite = true)
    (hs : x.scaled = n * 2 ^ 1074) (hn : 2 ^ 53 < n) :
    0 < x.binaryExponent ∧ n = x.significand * 2 ^ x.binaryExponent.toNat := by
  obtain ⟨hlt, he₁, -, -⟩ := canonical_of_isFinite hx
  have hpos : 0 < x.scaled := hs ▸ Int.mul_pos (by omega) (Int.pow_pos (by decide))
  have hmag : x.significand * 2 ^ (x.binaryExponent + 1074).toNat = n * 2 ^ 1074 := by
    have h := (scaled_of_pos hpos).symm.trans hs
    unfold scaleMag at h
    exact_mod_cast h
  have hE : 0 < x.binaryExponent := by
    by_contra hE
    have h1 : x.significand * 2 ^ (x.binaryExponent + 1074).toNat ≤ x.significand * 2 ^ 1074 :=
      Nat.mul_le_mul_left _ (Nat.pow_le_pow_right (by decide) (by omega))
    rw [hmag] at h1
    have h2 : n ≤ x.significand := Nat.le_of_mul_le_mul_right h1 (Nat.two_pow_pos 1074)
    omega
  refine ⟨hE, ?_⟩
  rw [show (x.binaryExponent + 1074).toNat = x.binaryExponent.toNat + 1074 by omega, Nat.pow_add,
    ← Nat.mul_assoc] at hmag
  exact (Nat.eq_of_mul_eq_mul_right (Nat.two_pow_pos 1074) hmag).symm

/-- A natural number that is the value of a finite float converts to a float
of exactly that value.  The reader's 53 extra bits are zeros below the
significand of the float. -/
theorem ofNat_spec_of_scaled {x : Float} {n : Nat} (hx : x.isFinite = true)
    (hs : x.scaled = n * 2 ^ 1074) :
    (Float.ofNat n).isFinite = true ∧ (Float.ofNat n).scaled = n * 2 ^ 1074 := by
  by_cases hn : n ≤ 2 ^ 53
  · exact ofNat_spec hn
  obtain ⟨hE, hm⟩ := eq_significand_mul hx hs (by omega)
  have hc := canonical_of_isFinite hx
  have hsig : 0 < x.significand := Nat.pos_of_ne_zero fun h0 => by rw [h0] at hm; omega
  have hr := roundWithAccuracy_exact (s := .positive) hc hsig (x.binaryExponent.toNat + 53)
  have hu : (Float.ofNat n).toModel.unpack = build .positive x.significand x.binaryExponent := by
    rw [ofNat_toModel (by omega), ofScientific_zero (by omega), hm, Nat.mul_assoc, ← Nat.pow_add,
      show (-53 : Int) = x.binaryExponent - ((x.binaryExponent.toNat + 53 : Nat) : Int) by omega, hr,
      unpack_pack_build hc]
  have hpos : 0 < x.scaled := hs ▸ Int.mul_pos (by omega) (Int.pow_pos (by decide))
  obtain ⟨hf, hsc⟩ := scaled_of_unpack hu
  refine ⟨hf, ?_⟩
  rw [hsc, signedValue_positive]
  exact (scaled_of_pos hpos).symm.trans hs

/-- An integer that is the value of a finite float converts to a float of
exactly that value. -/
theorem ofInt_spec_of_scaled {x : Float} {n : Int} (hx : x.isFinite = true)
    (hs : x.scaled = n * 2 ^ 1074) :
    (Float.ofInt n).isFinite = true ∧ (Float.ofInt n).scaled = n * 2 ^ 1074 := by
  cases n with
  | ofNat n => exact ofNat_spec_of_scaled hx hs
  | negSucc n =>
    obtain ⟨hf, hs'⟩ := neg_spec hx
    obtain ⟨hf₁, hs₁⟩ := ofNat_spec_of_scaled (n := n + 1) hf (by
      rw [hs', hs, Int.negSucc_eq, Int.neg_mul, Int.neg_neg]
      push_cast
      rfl)
    obtain ⟨hf₂, hs₂⟩ := neg_spec hf₁
    refine ⟨hf₂, ?_⟩
    rw [show Float.ofInt (.negSucc n) = -(Float.ofNat (n + 1)) from rfl, hs₂, hs₁, Int.negSucc_eq,
      Int.neg_mul]
    push_cast
    rfl

/-! ## Truncating and converting back -/

/-- A finite float truncated toward zero is the value of a finite float:
the float itself at a non-negative exponent, and a safe integer below. -/
theorem exists_scaled_tdiv {y : Float} (hy : y.isFinite = true) :
    ∃ x : Float, x.isFinite = true ∧ x.scaled = y.scaled.tdiv (2 ^ 1074) * 2 ^ 1074 := by
  obtain ⟨hlt, he₁, -, -⟩ := canonical_of_isFinite hy
  have hU : (2 : Int) ^ 1074 ≠ 0 := Int.pow_ne_zero (by decide)
  by_cases hE : 0 ≤ y.binaryExponent
  · have hk : scaleMag y.significand y.binaryExponent =
        y.significand * 2 ^ y.binaryExponent.toNat * 2 ^ 1074 := by
      rw [scaleMag, Nat.mul_assoc, ← Nat.pow_add]
      congr 2
      omega
    have hs : y.scaled = (if y.signBit then -((y.significand * 2 ^ y.binaryExponent.toNat : Nat) : Int)
        else ((y.significand * 2 ^ y.binaryExponent.toNat : Nat) : Int)) * 2 ^ 1074 := by
      rw [scaled_eq, hk]
      split <;> push_cast <;> ring
    refine ⟨y, hy, ?_⟩
    rw [hs, Int.mul_tdiv_cancel _ hU]
  · have htrunc : (y.scaled.tdiv (2 ^ 1074)).natAbs = y.truncatedMagnitude := by
      rw [truncatedMagnitude_eq hy, Int.natAbs_tdiv, Int.natAbs_pow, scaled_eq]
      split <;> simp only [Int.natAbs_neg, Int.natAbs_natCast] <;> rfl
    have hbound : (y.scaled.tdiv (2 ^ 1074)).natAbs ≤ 2 ^ 53 := by
      rw [htrunc, truncatedMagnitude_def, if_neg hE]
      exact (Nat.div_le_self _ _).trans hlt.le
    obtain ⟨hf, hs⟩ := ofInt_spec hbound
    exact ⟨_, hf, hs⟩

/-- A float truncated to a signed 64-bit integer converts back to a finite
float whose value is a whole number that saturates to the same integer.
Inside the range the truncation is the value of a float and converts
exactly; at the top end `2 ^ 63 - 1` converts to `2 ^ 63`, which saturates
back. -/
theorem ofInt_toIntSat (y : Float) :
    (Float.ofInt y.toIntSat).isFinite = true ∧ ∃ q : Int,
      (Float.ofInt y.toIntSat).scaled = q * 2 ^ 1074 ∧ max int64Min (min int64Max q) = y.toIntSat := by
  have hexact : ∀ t : Int, int64Min ≤ t → t ≤ int64Max →
      (∃ x : Float, x.isFinite = true ∧ x.scaled = t * 2 ^ 1074) →
      (Float.ofInt t).isFinite = true ∧ ∃ q : Int,
        (Float.ofInt t).scaled = q * 2 ^ 1074 ∧ max int64Min (min int64Max q) = t := by
    rintro t h₁ h₂ ⟨x, hx, hs⟩
    obtain ⟨hf, hs'⟩ := ofInt_spec_of_scaled hx hs
    exact ⟨hf, t, hs', by simp only [int64Min_def, int64Max_def] at *; omega⟩
  have hmax : (Float.ofInt int64Max).isFinite = true ∧ ∃ q : Int,
      (Float.ofInt int64Max).scaled = q * 2 ^ 1074 ∧ max int64Min (min int64Max q) = int64Max :=
    ⟨by decide +kernel, 2 ^ 63, by decide +kernel, by decide⟩
  have hmin : (Float.ofInt int64Min).isFinite = true ∧ ∃ q : Int,
      (Float.ofInt int64Min).scaled = q * 2 ^ 1074 ∧ max int64Min (min int64Max q) = int64Min :=
    hexact _ (le_refl _) (by decide) ⟨Float.ofInt int64Min, by decide +kernel, by decide +kernel⟩
  by_cases hnan : y.isNaN = true
  · have h0 : y.toIntSat = 0 := by simp only [toIntSat, hnan, if_true]
    rw [h0]
    exact hexact 0 (by decide) (by decide) ⟨0.0, by decide, by decide +kernel⟩
  by_cases hfin : y.isFinite = true
  · rw [toIntSat_of_isFinite hfin]
    generalize ht : y.scaled.tdiv (2 ^ 1074) = t
    by_cases htop : int64Max ≤ t
    · rw [show max int64Min (min int64Max t) = int64Max by simp only [int64Min_def, int64Max_def] at *; omega]
      exact hmax
    by_cases hbot : t ≤ int64Min
    · rw [show max int64Min (min int64Max t) = int64Min by simp only [int64Min_def, int64Max_def] at *; omega]
      exact hmin
    rw [show max int64Min (min int64Max t) = t by simp only [int64Min_def, int64Max_def] at *; omega]
    obtain ⟨x, hx, hxs⟩ := exists_scaled_tdiv hfin
    rw [ht] at hxs
    exact hexact t (by omega) (by omega) ⟨x, hx, hxs⟩
  · have hinf : y.toIntSat = if y.signBit then int64Min else int64Max := by
      simp only [toIntSat, Bool.eq_false_iff.2 hnan, Bool.eq_false_iff.2 hfin, Bool.not_false,
        if_true, Bool.false_eq_true, if_false]
    rw [hinf]
    split
    · exact hmin
    · exact hmax

end Float
