import Mathlib
import CareerInsight.Binary64.Basic

/-!
# The order of finite binary64 numbers

`Float` has a logical model: a bit pattern, unpacked into a sign, a
significand and an exponent, and its comparisons are defined on the
unpacked form (exponent first, then significand).  This file reads the
unpacked form off the bit fields of `Binary64.Basic` and shows that on
finite floats the model's order is the order of the values.

* `toModel_unpack` is the unpacked form of any float, case by case on its
  exponent field: an infinity or a NaN for the top field, otherwise a zero
  or a finite number with `significand` and `binaryExponent`.
* `Canonical` is the shape every finite float's pair of significand and
  exponent has, and `lex_eq_compare` says that on such pairs the model's
  lexicographic order is the order of `scaleMag`, the magnitude counted in
  units of `2 ^ -1074`, the least positive float.
* `scaled` is the signed value of a float in those units, and
  `lt_iff_scaled`, `le_iff_scaled` say that finite floats compare as their
  values.  So `-0.0` and `0.0` are equal to the order, and no finite float
  is incomparable to another.
* `maxNum_spec`, `minNum_spec` and `scaled_le_of_totalKey_le` carry this to
  the project's NaN-ignoring extrema and to the total-order key of
  `Float.sortTotal`.

Beyond finite floats only what holds of every float is shown:
`unpacked_compare_swap` (swapping the operands swaps the answer), so
`not_lt_of_le` and `lt_irrefl`, and `isFinite_of_le_of_le`, that a float
between two finite ones is finite.  `beq_iff_scaled` says that `==` on finite
floats is equality of values.
-/

open Float.Model Float.Model.UnpackedFloat

namespace Float

/-! ## The bit fields as powers of two

The fields are defined with `Nat.pow`, so that they mean the same with and
without this library's algebra; these equations restate them with `^`, the
form `omega` and the lemmas below work with. -/

theorem signBit_def (x : Float) : x.signBit = decide (2 ^ 63 ≤ x.bitsNat) := rfl

theorem exponentField_def (x : Float) : x.exponentField = x.bitsNat / 2 ^ 52 % 2 ^ 11 := rfl

theorem fractionField_def (x : Float) : x.fractionField = x.bitsNat % 2 ^ 52 := rfl

theorem significand_def (x : Float) :
    x.significand = if x.exponentField = 0 then x.fractionField else x.fractionField + 2 ^ 52 := rfl

theorem truncatedMagnitude_def (x : Float) :
    x.truncatedMagnitude =
      if 0 ≤ x.binaryExponent then x.significand * 2 ^ x.binaryExponent.toNat
      else x.significand / 2 ^ (-x.binaryExponent).toNat := rfl

theorem totalKey_def (x : Float) :
    x.totalKey = if x.signBit then -1 - ((x.bitsNat - 2 ^ 63 : Nat) : Int) else x.bitsNat := rfl

theorem int64Min_def : int64Min = -((2 ^ 63 : Nat) : Int) := rfl

theorem int64Max_def : int64Max = ((2 ^ 63 - 1 : Nat) : Int) := rfl

/-! ## The bit fields as the model reads them -/

theorem bitsNat_lt (x : Float) : x.bitsNat < 2 ^ 64 := x.toBits.toNat_lt

@[simp] theorem toModel_toBits_toNat (x : Float) : x.toModel.toBits.toNat = x.bitsNat := rfl

theorem exponentField_lt (x : Float) : x.exponentField < 2048 := Nat.mod_lt _ (by decide)

theorem fractionField_lt (x : Float) : x.fractionField < 2 ^ 52 := Nat.mod_lt _ (by decide)

/-- The sign of a float in the model's terms. -/
def sign (x : Float) : Sign := if x.signBit then .negative else .positive

theorem mantissaVec_toNat (x : Float) :
    (@unpackMantissa Format.binary64 x.toModel.toBits.toBitVec).toNat =
      x.fractionField := by
  simp [unpackMantissa, fractionField_def]

theorem exponentVec_toNat (x : Float) :
    (@unpackExponent Format.binary64 x.toModel.toBits.toBitVec).toNat =
      x.exponentField := by
  simp [unpackExponent, exponentField_def, Nat.shiftRight_eq_div_pow]

theorem signVec_ofBitVec (x : Float) :
    Sign.ofBitVec (@unpackSign Format.binary64 x.toModel.toBits.toBitVec) = x.sign := by
  have hlt := x.bitsNat_lt
  have h : (@unpackSign Format.binary64 x.toModel.toBits.toBitVec).toNat =
      x.bitsNat / 2 ^ 63 := by
    simp [unpackSign, Nat.shiftRight_eq_div_pow]
    omega
  simp only [Sign.ofBitVec, sign, signBit_def]
  by_cases hs : 2 ^ 63 ≤ x.bitsNat
  · have hne : @unpackSign Format.binary64 x.toModel.toBits.toBitVec ≠ 0#1 := by
      intro h0
      rw [h0] at h
      simp at h
      omega
    simp only [hne, if_false, decide_eq_true hs, if_true]
  · have heq : @unpackSign Format.binary64 x.toModel.toBits.toBitVec = 0#1 := by
      apply BitVec.eq_of_toNat_eq
      rw [h]
      simp
      omega
    simp only [heq, if_true, decide_eq_false hs, Bool.false_eq_true, if_false]

theorem finite_congr {s : Sign} {m m' : Nat} {e e' : Int} {h : 0 < m} {h' : 0 < m'}
    (hm : m = m') (he : e = e') : UnpackedFloat.finite s m e h = .finite s m' e' h' := by
  subst hm he
  rfl

theorem binary64_exponentBias : Format.binary64.exponentBias = 1023 := rfl

/-- The unpacked form of a float: the top exponent field holds the infinities
and NaN, and every other field a zero or a finite number whose significand and
exponent are the project's `significand` and `binaryExponent`.  Subnormal
numbers and zeros take the least exponent, and normal numbers get their hidden
bit back. -/
theorem toModel_unpack (x : Float) :
    x.toModel.unpack =
      if x.exponentField = 2047 then
        (if x.fractionField = 0 then .infinity x.sign else .notANumber)
      else if h : x.significand = 0 then .zero x.sign
      else .finite x.sign x.significand x.binaryExponent (Nat.pos_of_ne_zero h) := by
  have hm := mantissaVec_toNat x
  have he := exponentVec_toNat x
  have hf := x.fractionField_lt
  simp only [Float.Model.unpack, UnpackedFloat.unpack, signVec_ofBitVec]
  by_cases h1 : x.exponentField = 2047
  · have hv : @unpackExponent Format.binary64 x.toModel.toBits.toBitVec = -1#_ := by
      apply BitVec.eq_of_toNat_eq
      rw [he, h1]
      rfl
    by_cases h2 : x.fractionField = 0
    · have hw : @unpackMantissa Format.binary64 x.toModel.toBits.toBitVec = 0#_ := by
        apply BitVec.eq_of_toNat_eq
        rw [hm, h2]
        rfl
      simp [hv, hw, h1, h2]
    · have hw : @unpackMantissa Format.binary64 x.toModel.toBits.toBitVec ≠ 0#_ := by
        intro h0
        rw [h0] at hm
        exact h2 hm.symm
      simp [hv, hw, h1, h2]
  · have hv : @unpackExponent Format.binary64 x.toModel.toBits.toBitVec ≠ -1#_ := by
      intro h0
      rw [h0] at he
      exact h1 he.symm
    simp only [hv, if_false, h1]
    by_cases h3 : x.exponentField = 0
    · have hz : @unpackExponent Format.binary64 x.toModel.toBits.toBitVec = 0#_ := by
        apply BitVec.eq_of_toNat_eq
        rw [he, h3]
        rfl
      have hs : x.significand = x.fractionField := by simp [significand, h3]
      have hb : x.binaryExponent = -1074 := by simp [binaryExponent, h3]
      by_cases h2 : x.fractionField = 0
      · have hw : @unpackMantissa Format.binary64 x.toModel.toBits.toBitVec = 0#_ := by
          apply BitVec.eq_of_toNat_eq
          rw [hm, h2]
          rfl
        simp [hz, hw, hs, h2]
      · have hw : @unpackMantissa Format.binary64 x.toModel.toBits.toBitVec ≠ 0#_ := by
          intro h0
          rw [h0] at hm
          exact h2 hm.symm
        simp only [hz, hw, hs, h2, hb, dite_false, if_true]
        exact finite_congr hm (by simp [binary64_exponentBias])
    · have hz : @unpackExponent Format.binary64 x.toModel.toBits.toBitVec ≠ 0#_ := by
        intro h0
        rw [h0] at he
        exact h3 he.symm
      have hs : x.significand = x.fractionField + 2 ^ 52 := by simp [significand_def, h3]
      have hb : x.binaryExponent = x.exponentField - 1075 := by simp [binaryExponent, h3]
      have hs0 : x.significand ≠ 0 := by omega
      simp only [hz, hs0, if_false, dite_false]
      apply finite_congr
      · rw [hs, BitVec.toNat_append, mantissaVec_toNat, ← Nat.shiftLeft_add_eq_or_of_lt hf]
        simp [Nat.shiftLeft_eq]
        omega
      · rw [hb, he, binary64_exponentBias]
        omega

theorem isFinite_iff (x : Float) : x.isFinite = true ↔ x.exponentField ≠ 2047 := by
  show x.toModel.unpack.isFinite = true ↔ _
  rw [toModel_unpack]
  by_cases h1 : x.exponentField = 2047
  · by_cases h2 : x.fractionField = 0 <;> simp [h1, h2, UnpackedFloat.isFinite]
  · by_cases h2 : x.significand = 0 <;> simp [h1, h2, UnpackedFloat.isFinite]

theorem isNaN_iff (x : Float) :
    x.isNaN = true ↔ x.exponentField = 2047 ∧ x.fractionField ≠ 0 := by
  show x.toModel.unpack.isNaN = true ↔ _
  rw [toModel_unpack]
  by_cases h1 : x.exponentField = 2047
  · by_cases h2 : x.fractionField = 0 <;> simp [h1, h2, UnpackedFloat.isNaN]
  · by_cases h2 : x.significand = 0 <;> simp [h1, h2, UnpackedFloat.isNaN]

theorem isNaN_eq_false {x : Float} (h : x.isFinite = true) : x.isNaN = false := by
  have := (isFinite_iff x).1 h
  cases hn : x.isNaN
  · rfl
  · exact absurd ((isNaN_iff x).1 hn).1 this

/-! ## Canonical pairs and their values -/

/-- The shape of the significand and exponent of a finite float: below
`2 ^ 53`, an exponent in the format's range, and the hidden bit set unless
the exponent is the least one. -/
def Canonical (m : Nat) (e : Int) : Prop :=
  m < 2 ^ 53 ∧ -1074 ≤ e ∧ e ≤ 971 ∧ (2 ^ 52 ≤ m ∨ e = -1074)

/-- A significand at an exponent, counted in units of `2 ^ -1074`. -/
def scaleMag (m : Nat) (e : Int) : Nat := m * 2 ^ (e + 1074).toNat

theorem scaleMag_pos {m : Nat} (hm : 0 < m) (e : Int) : 0 < scaleMag m e :=
  Nat.mul_pos hm (Nat.two_pow_pos _)

/-- A canonical pair at a smaller exponent is smaller: its significand is
below `2 ^ 53`, and the other has its hidden bit set. -/
theorem scaleMag_lt_of_lt {m₁ m₂ : Nat} {e₁ e₂ : Int} (h₁ : Canonical m₁ e₁)
    (h₂ : Canonical m₂ e₂) (he : e₁ < e₂) : scaleMag m₁ e₁ < scaleMag m₂ e₂ := by
  obtain ⟨hm₁, he₁, -, -⟩ := h₁
  obtain ⟨-, -, -, hn₂⟩ := h₂
  have hm₂ : 2 ^ 52 ≤ m₂ := hn₂.resolve_right (by omega)
  have hd : (e₁ + 1074).toNat + 1 ≤ (e₂ + 1074).toNat := by omega
  calc m₁ * 2 ^ (e₁ + 1074).toNat < 2 ^ 53 * 2 ^ (e₁ + 1074).toNat :=
        Nat.mul_lt_mul_of_pos_right hm₁ (Nat.two_pow_pos _)
    _ = 2 ^ 52 * 2 ^ ((e₁ + 1074).toNat + 1) := by rw [Nat.pow_succ]; ring
    _ ≤ 2 ^ 52 * 2 ^ (e₂ + 1074).toNat :=
        Nat.mul_le_mul_left _ (Nat.pow_le_pow_right (by decide) hd)
    _ ≤ m₂ * 2 ^ (e₂ + 1074).toNat := Nat.mul_le_mul_right _ hm₂

theorem compare_scaleMag_same (m₁ m₂ : Nat) (e : Int) :
    compare (scaleMag m₁ e) (scaleMag m₂ e) = compare m₁ m₂ := by
  have hp := Nat.two_pow_pos (e + 1074).toNat
  unfold scaleMag
  rcases Nat.lt_trichotomy m₁ m₂ with h | rfl | h
  · rw [Nat.compare_eq_lt.2 h, Nat.compare_eq_lt.2 (Nat.mul_lt_mul_of_pos_right h hp)]
  · rw [Nat.compare_eq_eq.2 rfl, Nat.compare_eq_eq.2 rfl]
  · rw [Nat.compare_eq_gt.2 h, Nat.compare_eq_gt.2 (Nat.mul_lt_mul_of_pos_right h hp)]

/-- On canonical pairs the model's order, exponent first and then
significand, is the order of the magnitudes. -/
theorem lex_eq_compare {m₁ m₂ : Nat} {e₁ e₂ : Int} (h₁ : Canonical m₁ e₁)
    (h₂ : Canonical m₂ e₂) :
    (compare e₁ e₂).then (compare m₁ m₂) = compare (scaleMag m₁ e₁) (scaleMag m₂ e₂) := by
  rcases Int.lt_trichotomy e₁ e₂ with h | rfl | h
  · rw [Int.compare_eq_lt.2 h, Nat.compare_eq_lt.2 (scaleMag_lt_of_lt h₁ h₂ h)]
    rfl
  · rw [Int.compare_eq_eq.2 rfl, compare_scaleMag_same]
    rfl
  · rw [Int.compare_eq_gt.2 h, Nat.compare_eq_gt.2 (scaleMag_lt_of_lt h₂ h₁ h)]
    rfl

/-- The unpacked float of a sign, significand and exponent; a zero
significand gives a zero of that sign. -/
def build (s : Sign) (m : Nat) (e : Int) : UnpackedFloat :=
  if h : m = 0 then .zero s else .finite s m e (Nat.pos_of_ne_zero h)

/-- The value of a sign, significand and exponent in units of `2 ^ -1074`. -/
def signedValue (s : Sign) (m : Nat) (e : Int) : Int := s.apply (scaleMag m e)

theorem signedValue_zero (s : Sign) (e : Int) : signedValue s 0 e = 0 := by
  cases s <;> simp [signedValue, scaleMag, Sign.apply]

theorem compare_natCast (a b : Nat) : compare (a : Int) (b : Int) = compare a b := by
  rcases Nat.lt_trichotomy a b with h | rfl | h
  · rw [Int.compare_eq_lt.2 (by omega), Nat.compare_eq_lt.2 h]
  · rw [Int.compare_eq_eq.2 rfl, Nat.compare_eq_eq.2 rfl]
  · rw [Int.compare_eq_gt.2 (by omega), Nat.compare_eq_gt.2 h]

theorem compare_neg_neg (a b : Int) : compare (-a) (-b) = (compare a b).swap := by
  rw [Int.compare_swap]
  rcases Int.lt_trichotomy a b with h | rfl | h
  · rw [Int.compare_eq_gt.2 (by omega), Int.compare_eq_gt.2 h]
  · rw [Int.compare_eq_eq.2 rfl, Int.compare_eq_eq.2 rfl]
  · rw [Int.compare_eq_lt.2 (by omega), Int.compare_eq_lt.2 h]

/-- The model compares canonical unpacked floats as their values.  A zero
against a nonzero value is decided by the other's sign; two nonzero values by
their signs when these differ, and by their magnitudes when they agree. -/
theorem compare_build {s₁ s₂ : Sign} {m₁ m₂ : Nat} {e₁ e₂ : Int} (h₁ : Canonical m₁ e₁)
    (h₂ : Canonical m₂ e₂) :
    (build s₁ m₁ e₁).compare (build s₂ m₂ e₂) =
      some (compare (signedValue s₁ m₁ e₁) (signedValue s₂ m₂ e₂)) := by
  by_cases hz₁ : m₁ = 0 <;> by_cases hz₂ : m₂ = 0
  · subst hz₁ hz₂
    rw [signedValue_zero, signedValue_zero]
    cases s₁ <;> cases s₂ <;> rfl
  · subst hz₁
    have p₂ := scaleMag_pos (Nat.pos_of_ne_zero hz₂) e₂
    rw [signedValue_zero]
    cases s₂
    · rw [Int.compare_eq_gt.2 (by simp [signedValue, Sign.apply]; omega)]
      cases s₁ <;> simp [build, hz₂, UnpackedFloat.compare]
    · rw [Int.compare_eq_lt.2 (by simp [signedValue, Sign.apply]; omega)]
      cases s₁ <;> simp [build, hz₂, UnpackedFloat.compare]
  · subst hz₂
    have p₁ := scaleMag_pos (Nat.pos_of_ne_zero hz₁) e₁
    rw [signedValue_zero]
    cases s₁
    · rw [Int.compare_eq_lt.2 (by simp [signedValue, Sign.apply]; omega)]
      cases s₂ <;> simp [build, hz₁, UnpackedFloat.compare]
    · rw [Int.compare_eq_gt.2 (by simp [signedValue, Sign.apply]; omega)]
      cases s₂ <;> simp [build, hz₁, UnpackedFloat.compare]
  · have p₁ := scaleMag_pos (Nat.pos_of_ne_zero hz₁) e₁
    have p₂ := scaleMag_pos (Nat.pos_of_ne_zero hz₂) e₂
    have hl := lex_eq_compare h₁ h₂
    cases s₁ <;> cases s₂ <;>
      simp only [build, hz₁, hz₂, dite_false, UnpackedFloat.compare, signedValue, Sign.apply]
    · rw [compare_neg_neg, compare_natCast, hl]
    · rw [Int.compare_eq_lt.2 (by omega)]
    · rw [Int.compare_eq_gt.2 (by omega)]
    · rw [compare_natCast, hl]

/-! ## Finite floats compare as their values -/

theorem canonical_of_isFinite {x : Float} (h : x.isFinite = true) :
    Canonical x.significand x.binaryExponent := by
  have he := (isFinite_iff x).1 h
  have hf := x.fractionField_lt
  have hE := x.exponentField_lt
  unfold Canonical binaryExponent
  rw [significand_def]
  by_cases h0 : x.exponentField = 0
  · rw [if_pos h0, if_pos h0]
    omega
  · rw [if_neg h0, if_neg h0]
    omega

theorem toModel_unpack_of_isFinite {x : Float} (h : x.isFinite = true) :
    x.toModel.unpack = build x.sign x.significand x.binaryExponent := by
  rw [toModel_unpack, if_neg ((isFinite_iff x).1 h)]
  rfl

/-- The value of a float in units of `2 ^ -1074`; meaningful for finite floats. -/
def scaled (x : Float) : Int := signedValue x.sign x.significand x.binaryExponent

theorem scaled_eq (x : Float) :
    x.scaled = if x.signBit then -(scaleMag x.significand x.binaryExponent : Int)
      else scaleMag x.significand x.binaryExponent := by
  unfold scaled signedValue sign
  cases x.signBit <;> rfl

theorem compare_of_isFinite {x y : Float} (hx : x.isFinite = true) (hy : y.isFinite = true) :
    x.toModel.unpack.compare y.toModel.unpack = some (compare x.scaled y.scaled) := by
  rw [toModel_unpack_of_isFinite hx, toModel_unpack_of_isFinite hy]
  exact compare_build (canonical_of_isFinite hx) (canonical_of_isFinite hy)

theorem lt_iff_unpack (x y : Float) : x < y ↔ x.toModel.unpack.lt y.toModel.unpack = true := by
  show x.lt y = true ↔ _
  unfold Float.lt
  simp only [decide_eq_true_eq]
  rfl

theorem le_iff_unpack (x y : Float) : x ≤ y ↔ x.toModel.unpack.le y.toModel.unpack = true := by
  show x.le y = true ↔ _
  unfold Float.le
  simp only [decide_eq_true_eq]
  rfl

/-- Finite floats are ordered strictly as their values. -/
theorem lt_iff_scaled {x y : Float} (hx : x.isFinite = true) (hy : y.isFinite = true) :
    x < y ↔ x.scaled < y.scaled := by
  rw [lt_iff_unpack, UnpackedFloat.lt, compare_of_isFinite hx hy, ← Int.compare_eq_lt]
  simp

/-- Finite floats are ordered as their values; `-0.0 ≤ 0.0 ≤ -0.0`. -/
theorem le_iff_scaled {x y : Float} (hx : x.isFinite = true) (hy : y.isFinite = true) :
    x ≤ y ↔ x.scaled ≤ y.scaled := by
  rw [le_iff_unpack, UnpackedFloat.le, compare_of_isFinite hx hy, Option.any_some,
    Int.isLE_compare]

/-! ## Extrema and the total-order key -/

/-- The NaN-ignoring maximum of two finite floats is finite, with the larger
value. -/
theorem maxNum_spec {a b : Float} (ha : a.isFinite = true) (hb : b.isFinite = true) :
    (maxNum a b).isFinite = true ∧ (maxNum a b).scaled = max a.scaled b.scaled := by
  unfold maxNum
  rw [isNaN_eq_false hb]
  by_cases h : b < a
  · have := (lt_iff_scaled hb ha).1 h
    simp only [Bool.false_eq_true, if_false, GT.gt, h, if_true]
    exact ⟨ha, by omega⟩
  · have := (lt_iff_scaled hb ha).not.1 h
    simp only [Bool.false_eq_true, if_false, GT.gt, h]
    exact ⟨hb, by omega⟩

/-- The NaN-ignoring minimum of two finite floats is finite, with the
smaller value. -/
theorem minNum_spec {a b : Float} (ha : a.isFinite = true) (hb : b.isFinite = true) :
    (minNum a b).isFinite = true ∧ (minNum a b).scaled = min a.scaled b.scaled := by
  unfold minNum
  rw [isNaN_eq_false hb]
  by_cases h : a < b
  · have := (lt_iff_scaled ha hb).1 h
    simp only [Bool.false_eq_true, if_false, h, if_true]
    exact ⟨ha, by omega⟩
  · have := (lt_iff_scaled ha hb).not.1 h
    simp only [Bool.false_eq_true, if_false, h]
    exact ⟨hb, by omega⟩

/-- The bits below the sign: the exponent field, then the fraction. -/
def magnitudeBits (x : Float) : Nat := x.exponentField * 2 ^ 52 + x.fractionField

theorem bitsNat_eq (x : Float) :
    x.bitsNat = (if x.signBit then 2 ^ 63 else 0) + x.magnitudeBits := by
  have := x.bitsNat_lt
  unfold magnitudeBits
  rw [exponentField_def, fractionField_def, signBit_def]
  by_cases h : 2 ^ 63 ≤ x.bitsNat
  · rw [if_pos (decide_eq_true h)]
    omega
  · rw [if_neg (by simpa using h)]
    omega

/-- Among finite floats of one sign, more magnitude bits mean a larger
magnitude. -/
theorem scaleMag_le_of_magnitudeBits_le {x y : Float} (hx : x.isFinite = true)
    (hy : y.isFinite = true) (h : x.magnitudeBits ≤ y.magnitudeBits) :
    scaleMag x.significand x.binaryExponent ≤ scaleMag y.significand y.binaryExponent := by
  have cx := canonical_of_isFinite hx
  have cy := canonical_of_isFinite hy
  have fx := x.fractionField_lt
  have fy := y.fractionField_lt
  unfold magnitudeBits at h
  rcases Nat.lt_or_ge x.exponentField y.exponentField with hlt | hge
  · by_cases hb : x.binaryExponent < y.binaryExponent
    · exact (scaleMag_lt_of_lt cx cy hb).le
    · have h0 : x.exponentField = 0 := by
        by_contra hne
        simp only [binaryExponent, hne, if_false] at hb
        split at hb <;> omega
      have h1 : y.exponentField ≠ 0 := by omega
      have hbe : x.binaryExponent = y.binaryExponent := by
        simp only [binaryExponent, h0, h1, if_true, if_false] at hb ⊢
        omega
      rw [hbe]
      apply Nat.mul_le_mul_right
      simp only [significand_def, h0, h1, if_true, if_false]
      omega
  · have heq : x.exponentField = y.exponentField := by
      rcases Nat.lt_or_ge y.exponentField x.exponentField with h' | h'
      · have : (y.exponentField + 1) * 2 ^ 52 ≤ x.exponentField * 2 ^ 52 :=
          Nat.mul_le_mul_right _ h'
        omega
      · omega
    have hf : x.fractionField ≤ y.fractionField := by
      rw [heq] at h
      omega
    have hbe : x.binaryExponent = y.binaryExponent := by simp [binaryExponent, heq]
    rw [hbe]
    apply Nat.mul_le_mul_right
    simp only [significand_def, heq]
    split <;> omega

/-- The total-order key of `sortTotal` refines the order of values on
finite floats: a key no larger means a value no larger. -/
theorem scaled_le_of_totalKey_le {x y : Float} (hx : x.isFinite = true) (hy : y.isFinite = true)
    (h : x.totalKey ≤ y.totalKey) : x.scaled ≤ y.scaled := by
  have bx := x.bitsNat_eq
  have byy := y.bitsNat_eq
  rw [totalKey_def, totalKey_def] at h
  unfold scaled signedValue sign
  cases sx : x.signBit <;> cases sy : y.signBit <;>
    simp only [sx, sy, if_true, if_false, Bool.false_eq_true, Sign.apply] at h bx byy ⊢
  · exact_mod_cast scaleMag_le_of_magnitudeBits_le hx hy (by omega)
  · omega
  · omega
  · have := scaleMag_le_of_magnitudeBits_le hy hx (by omega)
    omega

/-! ## Comparisons beyond finite floats -/

/-- The model's comparison is antisymmetric: swapping the operands swaps the answer. -/
theorem unpacked_compare_swap (u v : UnpackedFloat) :
    v.compare u = (u.compare v).map Ordering.swap := by
  rcases u with s₁ | _ | s₁ | ⟨s₁, m₁, e₁, h₁⟩ <;> rcases v with s₂ | _ | s₂ | ⟨s₂, m₂, e₂, h₂⟩ <;>
    (try cases s₁) <;> (try cases s₂) <;>
    simp [UnpackedFloat.compare, Ordering.swap_then, Int.compare_swap, Nat.compare_swap] <;> rfl

theorem not_lt_of_le {a b : Float} (h : a ≤ b) : ¬ b < a := by
  rw [le_iff_unpack, UnpackedFloat.le] at h
  rw [lt_iff_unpack, UnpackedFloat.lt, unpacked_compare_swap]
  cases hc : a.toModel.unpack.compare b.toModel.unpack with
  | none => simp [hc] at h
  | some o => cases o <;> simp_all [Ordering.swap]

theorem lt_irrefl (a : Float) : ¬ a < a := by
  rw [lt_iff_unpack, UnpackedFloat.lt]
  have h := unpacked_compare_swap a.toModel.unpack a.toModel.unpack
  cases hc : a.toModel.unpack.compare a.toModel.unpack with
  | none => simp
  | some o =>
    rw [hc] at h
    cases o <;> simp_all [Ordering.swap]

theorem unpack_of_not_isFinite {x : Float} (h : x.isFinite = false) :
    x.toModel.unpack = .infinity x.sign ∨ x.toModel.unpack = .notANumber := by
  have h1 : x.exponentField = 2047 := by
    by_contra hne
    rw [(isFinite_iff x).2 hne] at h
    contradiction
  rw [toModel_unpack, if_pos h1]
  split <;> simp

theorem le_of_lt {a b : Float} (h : a < b) : a ≤ b := by
  rw [lt_iff_unpack, UnpackedFloat.lt] at h
  rw [le_iff_unpack, UnpackedFloat.le]
  simp only [beq_iff_eq] at h
  rw [h]
  rfl

/-- A float between two finite floats is finite.  An infinity lies above or
below every finite float. -/
theorem isFinite_of_le_of_le {a b c : Float} (ha : a.isFinite = true) (hc : c.isFinite = true)
    (h₁ : a ≤ b) (h₂ : b ≤ c) : b.isFinite = true := by
  cases hb : b.isFinite
  · exfalso
    rw [le_iff_unpack, toModel_unpack_of_isFinite ha] at h₁
    rw [le_iff_unpack, toModel_unpack_of_isFinite hc] at h₂
    rcases unpack_of_not_isFinite hb with hu | hu <;> rw [hu] at h₁ h₂
    · generalize b.sign = s at h₁ h₂
      unfold build at h₁ h₂
      cases s <;> split at h₁ <;> split at h₂ <;>
        simp_all [UnpackedFloat.le, UnpackedFloat.compare]
    · simp [UnpackedFloat.le, UnpackedFloat.compare] at h₂
  · rfl

/-- Finite floats are equal to the IEEE test exactly when their values are. -/
theorem beq_iff_scaled {x y : Float} (hx : x.isFinite = true) (hy : y.isFinite = true) :
    (x == y) = true ↔ x.scaled = y.scaled := by
  show (x.toModel.unpack.compare y.toModel.unpack == some .eq) = true ↔ _
  rw [compare_of_isFinite hx hy]
  simp

end Float
