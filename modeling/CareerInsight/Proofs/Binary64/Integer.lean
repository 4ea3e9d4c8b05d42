import Mathlib
import CareerInsight.Proofs.Binary64.Order

/-!
# Integers among binary64 numbers

The repair rules turn numbers into integers and back: an integer field is
rounded half away from zero and truncated to a 64-bit integer, and a floor
or a bound is compared as a float again.  This file shows that on the range
where every integer is a float, all of these conversions are exact.

* `unpack_pack_build` and `roundWithAccuracy_exact`: packing a canonical
  unpacked float, and rounding a value the format holds exactly, lose
  nothing.
* `ofNat_spec`, `ofInt_spec` and `neg_spec`: an integer of magnitude at most
  `2 ^ 53` converts to the float of exactly its value, and negation negates
  the value.
* `roundHalfAway_spec` and `toIntSat_of_isFinite` give the value of
  `Float.roundHalfAway` and `Float.toIntSat` on every finite float, and
  `roundHalfAway_toIntSat_between` carries bounds that are safe integers
  (`IsSafeInteger`) through both.
* `abs_sub_self`: a finite float minus itself has magnitude `0.0`.
-/

open Float.Model Float.Model.UnpackedFloat

namespace Float

/-! ## Packing a canonical float -/


theorem toNat_packComponents (s : Sign) (e : BitVec 11) (m : BitVec 52) :
    (packComponents Format.binary64 s e m).toNat =
      s.toBitVec.toNat * 2 ^ 63 + e.toNat * 2 ^ 52 + m.toNat := by
  have he := e.isLt
  have hm := m.isLt
  unfold packComponents
  rw [BitVec.toNat_append, BitVec.toNat_append, ← Nat.shiftLeft_add_eq_or_of_lt he,
    ← Nat.shiftLeft_add_eq_or_of_lt hm, Nat.shiftLeft_eq, Nat.shiftLeft_eq]
  ring

theorem unpackSign_packComponents (s : Sign) (e : BitVec 11) (m : BitVec 52) :
    @unpackSign Format.binary64 (packComponents Format.binary64 s e m) = s.toBitVec := by
  apply BitVec.eq_of_toNat_eq
  have he := e.isLt
  have hm := m.isLt
  have hs := s.toBitVec.isLt
  have h := toNat_packComponents s e m
  simp only [unpackSign, BitVec.toNat_cast, BitVec.extractLsb_toNat, Nat.shiftRight_eq_div_pow]
  rw [h]
  omega

theorem sign_ofBitVec_toBitVec (s : Sign) : Sign.ofBitVec s.toBitVec = s := by
  cases s <;> rfl

theorem model_pack_unpack (u : UnpackedFloat) :
    (Float.Model.pack u).unpack = UnpackedFloat.unpack Format.binary64 (UnpackedFloat.pack Format.binary64 u) := by
  simp [Float.Model.pack, Float.Model.unpack]

/-- Packing a canonical unpacked float and unpacking it again gives it back. -/
theorem unpack_pack_build {s : Sign} {m : Nat} {e : Int} (h : Canonical m e) :
    (Float.Model.pack (build s m e)).unpack = build s m e := by
  obtain ⟨hm, he₁, he₂, hn⟩ := h
  rw [model_pack_unpack]
  by_cases hz : m = 0
  · simp [build, hz, UnpackedFloat.pack, packedZero, UnpackedFloat.unpack]
  · have hb : (e + ↑Format.binary64.exponentBias + ↑Format.binary64.mantissaBitsWithoutImplicit).toNat = (e + 1075).toNat := by
      rw [binary64_exponentBias, show Format.binary64.mantissaBitsWithoutImplicit = 52 from rfl]
      omega
    simp only [build, hz, dite_false, UnpackedFloat.pack, hb]
    have hnov : ¬ (2 ^ Format.binary64.exponentBits ≤ (e + 1075).toNat + 1) := by
      show ¬ (2 ^ 11 ≤ _); omega
    rw [if_neg hnov]
    by_cases hnorm : 2 ^ 52 ≤ m
    · have hlog : m.log2 = 52 := (Nat.log2_eq_iff hz).2 ⟨hnorm, hm⟩
      rw [if_pos (by rw [hlog]; rfl)]
      have hE : (BitVec.ofNat 11 (e + 1075).toNat).toNat = (e + 1075).toNat :=
        Nat.mod_eq_of_lt (by omega)
      have hne1 : BitVec.ofNat 11 (e + 1075).toNat ≠ -1#_ := by
        intro h0; have := congrArg BitVec.toNat h0; rw [hE] at this; simp at this; omega
      have hne0 : BitVec.ofNat 11 (e + 1075).toNat ≠ 0#_ := by
        intro h0; have := congrArg BitVec.toNat h0; rw [hE] at this; simp at this; omega
      simp only [UnpackedFloat.unpack, unpackMantissa_packComponents, unpackExponent_packComponents,
        unpackSign_packComponents, sign_ofBitVec_toBitVec, if_neg hne1, if_neg hne0]
      apply finite_congr
      · have hM : (BitVec.ofNat 52 m).toNat = m % 2 ^ 52 := rfl
        have hlt : (BitVec.ofNat 52 m).toNat < 2 ^ 52 := (BitVec.ofNat 52 m).isLt
        rw [BitVec.toNat_append, ← Nat.shiftLeft_add_eq_or_of_lt hlt, hM, Nat.shiftLeft_eq]
        simp
        omega
      · rw [hE, binary64_exponentBias]
        omega
    · have hlog : m.log2 < 52 := (Nat.log2_lt hz).2 (by omega)
      have he : e = -1074 := hn.resolve_left hnorm
      rw [if_neg (by show ¬ (m.log2 + 1 = 53); omega)]
      have hM : (BitVec.ofNat 52 m).toNat = m := Nat.mod_eq_of_lt (by omega)
      have hne : BitVec.ofNat 52 m ≠ 0#_ := by
        intro h0; have := congrArg BitVec.toNat h0; rw [hM] at this; simp at this; omega
      simp only [UnpackedFloat.unpack, unpackMantissa_packComponents, unpackExponent_packComponents,
        unpackSign_packComponents, sign_ofBitVec_toBitVec, hne, dite_false,
        show (0#11 = -1#11) = False by decide, if_false, if_true]
      exact finite_congr hM (by rw [binary64_exponentBias, he]; rfl)

theorem isFinite_build (s : Sign) (m : Nat) (e : Int) : (build s m e).isFinite = true := by
  unfold build
  split <;> rfl

/-- A float whose unpacked form is a canonical triple is finite, with that
triple's value. -/
theorem scaled_of_unpack {x : Float} {s : Sign} {m : Nat} {e : Int}
    (h : x.toModel.unpack = build s m e) :
    x.isFinite = true ∧ x.scaled = signedValue s m e := by
  have hfin : x.isFinite = true := by
    show x.toModel.unpack.isFinite = true
    rw [h]
    exact isFinite_build s m e
  refine ⟨hfin, ?_⟩
  have h' := toModel_unpack_of_isFinite hfin
  rw [h] at h'
  unfold scaled
  by_cases hm : m = 0 <;> by_cases hs : x.significand = 0
  · rw [hm, hs, signedValue_zero, signedValue_zero]
  · simp [build, hm, hs] at h'
  · simp [build, hm, hs] at h'
  · simp only [build, hm, hs, dite_false, UnpackedFloat.finite.injEq] at h'
    obtain ⟨rfl, rfl, rfl⟩ := h'
    rfl

/-! ## Rounding a value the format holds exactly -/

theorem shiftRight_exact (M k : Nat) :
    ExtendedMantissa.ofMantissaAndAccuracy (M * 2 ^ k) .exact >>> k = ⟨M, false, false⟩ := by
  induction k generalizing M with
  | zero => simp [ExtendedMantissa.ofMantissaAndAccuracy, HShiftRight.hShiftRight, Nat.repeat]
  | succ k ih =>
    have h := ih (M * 2)
    rw [Nat.mul_assoc, ← Nat.pow_succ'] at h
    show ExtendedMantissa.shiftRightOne (ExtendedMantissa.ofMantissaAndAccuracy (M * 2 ^ (k + 1)) .exact >>> k) = _
    rw [h]
    simp [ExtendedMantissa.shiftRightOne]

theorem log2_mul_two_pow {M : Nat} (hM : M ≠ 0) (k : Nat) : (M * 2 ^ k).log2 = M.log2 + k := by
  have h1 := Nat.log2_self_le hM
  have h2 := @Nat.lt_log2_self M
  rw [Nat.log2_eq_iff (Nat.mul_ne_zero hM (Nat.two_pow_pos k).ne')]
  constructor
  · rw [Nat.pow_add]
    exact Nat.mul_le_mul_right _ h1
  · rw [show M.log2 + k + 1 = M.log2 + 1 + k by omega, Nat.pow_add]
    exact Nat.mul_lt_mul_of_pos_right h2 (Nat.two_pow_pos k)

/-- A canonical significand, shifted left, is shifted back to its own exponent. -/
theorem targetExponent_of_canonical {M : Nat} {E : Int} (hc : Canonical M E) (hM : 0 < M) (k : Nat) :
    Format.binary64.targetExponent (totalExponent (M * 2 ^ k) (E - k)) = E := by
  obtain ⟨hlt, he₁, -, hn⟩ := hc
  have hl := log2_mul_two_pow hM.ne' k
  simp only [Format.targetExponent, totalExponent, hl]
  show max (((M.log2 + k : Nat) : Int) + 1 + (E - k) - 53) (3 - 2 ^ 10 - 53) = E
  rcases hn with hn | hn
  · have : M.log2 = 52 := (Nat.log2_eq_iff hM.ne').2 ⟨hn, hlt⟩
    omega
  · have : M.log2 < 53 := (Nat.log2_lt hM.ne').2 hlt
    omega

theorem shiftToTargetExponent_exact {M : Nat} {E : Int} (hc : Canonical M E) (hM : 0 < M)
    (k : Nat) :
    shiftToTargetExponent Format.binary64 (M * 2 ^ k) (E - k) .exact = (⟨M, false, false⟩, E) := by
  simp only [shiftToTargetExponent, shiftToExponent, targetExponent_of_canonical hc hM k,
    show (E - (E - k)).toNat = k by omega, shiftRight_exact]
  congr 1
  omega

/-- Rounding a value the format holds exactly, given as a canonical
significand shifted left by `k`, gives that canonical float. -/
theorem roundWithAccuracy_exact {s : Sign} {M : Nat} {E : Int} (hc : Canonical M E) (hM : 0 < M)
    (k : Nat) :
    roundWithAccuracy Format.binary64 s (M * 2 ^ k) (E - k) .exact = build s M E := by
  have h0 := shiftToTargetExponent_exact hc hM 0
  simp only [Nat.pow_zero, Nat.mul_one, Nat.cast_zero, Int.sub_zero] at h0
  simp only [roundWithAccuracy, shiftToTargetExponent_exact hc hM k,
    ExtendedMantissa.roundedMantissa, ExtendedMantissa.accuracy, Accuracy.roundToNearestEven, h0,
    build, hM.ne', dite_false]

/-! ## Integers as floats -/

/-- The canonical significand of a positive integer below `2 ^ 53`: the
integer shifted until its top bit is the hidden bit. -/
theorem canonical_of_lt {n : Nat} (h0 : 0 < n) (h : n < 2 ^ 53) :
    Canonical (n * 2 ^ (52 - n.log2)) (n.log2 - 52) := by
  have hL : n.log2 < 53 := (Nat.log2_lt h0.ne').2 h
  have h1 := Nat.log2_self_le h0.ne'
  have h2 := @Nat.lt_log2_self n
  refine ⟨?_, by omega, by omega, Or.inl ?_⟩
  · calc n * 2 ^ (52 - n.log2) < 2 ^ (n.log2 + 1) * 2 ^ (52 - n.log2) :=
          Nat.mul_lt_mul_of_pos_right h2 (Nat.two_pow_pos _)
      _ = 2 ^ 53 := by rw [← Nat.pow_add]; congr 1; omega
  · calc 2 ^ 52 = 2 ^ n.log2 * 2 ^ (52 - n.log2) := by rw [← Nat.pow_add]; congr 1; omega
      _ ≤ n * 2 ^ (52 - n.log2) := Nat.mul_le_mul_right _ h1

theorem unpacked_ofNat {n : Nat} (h0 : 0 < n) (h : n < 2 ^ 53) :
    UnpackedFloat.ofNat Format.binary64 n = build .positive (n * 2 ^ (52 - n.log2)) (n.log2 - 52) := by
  have hL : n.log2 < 53 := (Nat.log2_lt h0.ne').2 h
  have ht : Format.binary64.targetExponent (totalExponent n 0) = (n.log2 : Int) - 52 := by
    simp only [Format.targetExponent, totalExponent]
    show max ((n.log2 : Int) + 1 + 0 - 53) (3 - 2 ^ 10 - 53) = _
    omega
  have hr := roundWithAccuracy_exact (s := .positive) (canonical_of_lt h0 h)
    (Nat.mul_pos h0 (Nat.two_pow_pos _)) 0
  simp only [Nat.pow_zero, Nat.mul_one, Nat.cast_zero, Int.sub_zero] at hr
  simp only [UnpackedFloat.ofNat, UnpackedFloat.ofInt, UnpackedFloat.normalize,
    Int.compare_eq_gt.2 (show (0 : Int) < n by omega), UnpackedFloat.round, ht, decreaseExponent,
    Int.toNat_natCast, Nat.shiftLeft_eq, show ((0 : Int) - ((n.log2 : Int) - 52)).toNat = 52 - n.log2 by omega,
    show (0 : Int) - ((52 - n.log2 : Nat) : Int) = (n.log2 : Int) - 52 by omega, hr]

theorem powerOfTen_zero_unpack :
    (GetElem.getElem Float.exactlyRepresentablePowersOfTen 0 (by decide)).toModel.unpack =
      build .positive (2 ^ 52) (-52) := by
  rfl

/-- A positive integer below `2 ^ 53` becomes the float of its exact value. -/
theorem ofNat_unpack {n : Nat} (h0 : 0 < n) (h : n < 2 ^ 53) :
    (Float.ofNat n).toModel.unpack = build .positive (n * 2 ^ (52 - n.log2)) (n.log2 - 52) := by
  have hc := canonical_of_lt h0 h
  have hM : 0 < n * 2 ^ (52 - n.log2) := Nat.mul_pos h0 (Nat.two_pow_pos _)
  have hu : (UInt64.toFloat n.toUInt64).toModel.unpack =
      build .positive (n * 2 ^ (52 - n.log2)) (n.log2 - 52) := by
    show (Float.Model.pack (UnpackedFloat.ofNat Format.binary64 n.toUInt64.toNat)).unpack = _
    rw [UInt64.toNat_ofNat_of_lt' (lt_trans h (by decide)), unpacked_ofNat h0 h, unpack_pack_build hc]
  have hfast : Float.ofNat n = UInt64.toFloat n.toUInt64 *
      GetElem.getElem Float.exactlyRepresentablePowersOfTen 0 (by decide) := by
    show Float.ofScientific n false 0 = _
    rw [Float.ofScientific, dif_pos ⟨h, Nat.zero_le _⟩]
    rfl
  have hmul := roundWithAccuracy_exact (s := .positive) hc hM 52
  rw [hfast]
  show (Float.Model.pack (UnpackedFloat.mul Format.binary64 _ _)).unpack = _
  rw [hu, powerOfTen_zero_unpack]
  simp only [build, hM.ne', dite_false, show (2 ^ 52 : Nat) ≠ 0 by decide, UnpackedFloat.mul]
  rw [show Sign.positive * Sign.positive = Sign.positive from rfl,
    show (n.log2 : Int) - 52 + -52 = n.log2 - 52 - ((52 : Nat) : Int) by omega, hmul,
    unpack_pack_build hc, build, dif_neg hM.ne']

theorem signedValue_positive (m : Nat) (e : Int) : signedValue .positive m e = scaleMag m e := rfl

theorem signedValue_neg (s : Sign) (m : Nat) (e : Int) :
    signedValue (-s) m e = -signedValue s m e := by
  cases s <;> simp [signedValue, Sign.apply]

/-- Every natural number up to `2 ^ 53` is a float of exactly its value. -/
theorem ofNat_spec {n : Nat} (h : n ≤ 2 ^ 53) :
    (Float.ofNat n).isFinite = true ∧ (Float.ofNat n).scaled = n * 2 ^ 1074 := by
  rcases Nat.eq_zero_or_pos n with rfl | h0
  · obtain ⟨hf, hs⟩ := scaled_of_unpack
      (show (Float.ofNat 0).toModel.unpack = build .positive 0 0 from rfl)
    exact ⟨hf, by rw [hs, signedValue_zero, Nat.cast_zero, Int.zero_mul]⟩
  rcases h.lt_or_eq with hlt | rfl
  · obtain ⟨hf, hs⟩ := scaled_of_unpack (ofNat_unpack h0 hlt)
    refine ⟨hf, ?_⟩
    have hL : n.log2 < 53 := (Nat.log2_lt h0.ne').2 hlt
    rw [hs, signedValue_positive, scaleMag, Nat.mul_assoc, ← Nat.pow_add,
      show 52 - n.log2 + ((n.log2 : Int) - 52 + 1074).toNat = 1074 by omega]
    simp only [Nat.cast_mul, Nat.cast_pow, Nat.cast_ofNat]
  · obtain ⟨hf, hs⟩ := scaled_of_unpack
      (show (Float.ofNat (2 ^ 53)).toModel.unpack = build .positive (2 ^ 52) 1 from rfl)
    refine ⟨hf, ?_⟩
    rw [hs, signedValue_positive, scaleMag,
      show (2 : Nat) ^ 52 * 2 ^ ((1 : Int) + 1074).toNat = 2 ^ 53 * 2 ^ 1074 by
        rw [← Nat.pow_add, ← Nat.pow_add]; congr 1]
    simp only [Nat.cast_mul, Nat.cast_pow, Nat.cast_ofNat]

theorem neg_build (s : Sign) (m : Nat) (e : Int) : (build s m e).neg = build (-s) m e := by
  unfold build
  split <;> rfl

/-- Negation flips the sign of a finite float's value. -/
theorem neg_spec {x : Float} (h : x.isFinite = true) :
    (-x).isFinite = true ∧ (-x).scaled = -x.scaled := by
  have hu : (-x).toModel.unpack = build (-x.sign) x.significand x.binaryExponent := by
    show (Float.Model.pack x.toModel.unpack.neg).unpack = _
    rw [toModel_unpack_of_isFinite h, neg_build, unpack_pack_build (canonical_of_isFinite h)]
  obtain ⟨hf, hs⟩ := scaled_of_unpack hu
  exact ⟨hf, by rw [hs, signedValue_neg]; rfl⟩

/-- Every integer of magnitude at most `2 ^ 53` is a float of exactly its value. -/
theorem ofInt_spec {n : Int} (h : n.natAbs ≤ 2 ^ 53) :
    (Float.ofInt n).isFinite = true ∧ (Float.ofInt n).scaled = n * 2 ^ 1074 := by
  cases n with
  | ofNat n =>
    obtain ⟨hf, hs⟩ := ofNat_spec (n := n) h
    exact ⟨hf, by rw [show Float.ofInt (.ofNat n) = Float.ofNat n from rfl, hs]; rfl⟩
  | negSucc n =>
    obtain ⟨hf, hs⟩ := ofNat_spec (n := n + 1) h
    obtain ⟨hf', hs'⟩ := neg_spec hf
    refine ⟨hf', ?_⟩
    rw [show Float.ofInt (.negSucc n) = -(Float.ofNat (n + 1)) from rfl, hs', hs, Int.negSucc_eq,
      Int.neg_mul, Nat.cast_add, Nat.cast_one]

/-! ## Rounding to an integer -/

/-- A value in units of `2 ^ -1074` rounded to a whole number of units of
one, a half away from zero. -/
def roundHalfAwayUnits (v : Int) : Int :=
  if v < 0 then -((-v + 2 ^ 1073) / 2 ^ 1074 * 2 ^ 1074) else (v + 2 ^ 1073) / 2 ^ 1074 * 2 ^ 1074

theorem natCast_div_units (M : Nat) :
    (((M + 2 ^ 1073) / 2 ^ 1074 : Nat) : Int) = ((M : Int) + 2 ^ 1073) / 2 ^ 1074 := by
  rw [Int.natCast_ediv, Nat.cast_add, Nat.cast_pow, Nat.cast_pow, Nat.cast_ofNat]

theorem half_div_units : ((2 : Int) ^ 1073) / 2 ^ 1074 = 0 :=
  Int.ediv_eq_zero_of_lt (by positivity) (pow_lt_pow_right₀ (by norm_num) (by norm_num))

theorem roundHalfAwayUnits_natCast {M r : Nat} (h : (M + 2 ^ 1073) / 2 ^ 1074 = r) :
    roundHalfAwayUnits M = r * 2 ^ 1074 := by
  rw [roundHalfAwayUnits, if_neg (Int.not_lt.2 (Int.natCast_nonneg M)), ← natCast_div_units, h]

theorem roundHalfAwayUnits_neg_natCast {M r : Nat} (h : (M + 2 ^ 1073) / 2 ^ 1074 = r) :
    roundHalfAwayUnits (-M) = -(r * 2 ^ 1074) := by
  rcases Nat.eq_zero_or_pos M with rfl | hM
  · have hr : (r : Int) = 0 := by
      rw [← h, natCast_div_units, Nat.cast_zero, Int.zero_add, half_div_units]
    rw [hr, roundHalfAwayUnits, Nat.cast_zero, Int.neg_zero, if_neg (Int.lt_irrefl 0), Int.zero_add,
      half_div_units, Int.zero_mul, Int.neg_zero]
  · rw [roundHalfAwayUnits, if_pos (by omega), Int.neg_neg, ← natCast_div_units, h]

theorem roundHalfAwayUnits_eq_mul (v : Int) : ∃ q : Int, roundHalfAwayUnits v = q * 2 ^ 1074 := by
  unfold roundHalfAwayUnits
  split
  · exact ⟨_, by rw [Int.neg_mul]⟩
  · exact ⟨_, rfl⟩

/-- Rounding keeps a value between two whole numbers between them. -/
theorem roundHalfAwayUnits_between {v a b : Int} (ha : a * 2 ^ 1074 ≤ v) (hb : v ≤ b * 2 ^ 1074) :
    ∃ q : Int, roundHalfAwayUnits v = q * 2 ^ 1074 ∧ a ≤ q ∧ q ≤ b := by
  have hU : (0 : Int) < 2 ^ 1074 := by positivity
  have hH : (2 : Int) ^ 1073 < 2 ^ 1074 := pow_lt_pow_right₀ (by norm_num) (by norm_num)
  have hH₀ : (0 : Int) ≤ 2 ^ 1073 := by positivity
  unfold roundHalfAwayUnits
  generalize (2 : Int) ^ 1074 = U at *
  generalize (2 : Int) ^ 1073 = H at *
  split_ifs with hv
  · refine ⟨-((-v + H) / U), by rw [Int.neg_mul], ?_, ?_⟩
    · have : (-v + H) / U < -a + 1 := (Int.ediv_lt_iff_lt_mul hU).2 (by linarith)
      omega
    · have : -b ≤ (-v + H) / U := (Int.le_ediv_iff_mul_le hU).2 (by linarith)
      omega
  · refine ⟨(v + H) / U, rfl, (Int.le_ediv_iff_mul_le hU).2 (by linarith), ?_⟩
    have : (v + H) / U < b + 1 := (Int.ediv_lt_iff_lt_mul hU).2 (by linarith)
    omega

theorem div_pow_add_half (m s : Nat) (hs : 0 < s) :
    (m + 2 ^ (s - 1)) / 2 ^ s =
      if 2 ^ s ≤ 2 * (m % 2 ^ s) then m / 2 ^ s + 1 else m / 2 ^ s := by
  have hP : 2 ^ s = 2 * 2 ^ (s - 1) := by rw [← Nat.pow_succ']; congr 1; omega
  have hpos : 0 < 2 ^ s := Nat.two_pow_pos s
  have hr := Nat.mod_lt m hpos
  conv_lhs => rw [← Nat.div_add_mod m (2 ^ s)]
  rw [show 2 ^ s * (m / 2 ^ s) + m % 2 ^ s + 2 ^ (s - 1) =
      (m % 2 ^ s + 2 ^ (s - 1)) + 2 ^ s * (m / 2 ^ s) by ring, Nat.add_mul_div_left _ _ hpos]
  split_ifs with h
  · rw [show (m % 2 ^ s + 2 ^ (s - 1)) / 2 ^ s = 1 from Nat.div_eq_of_lt_le (by omega) (by omega)]
    omega
  · rw [Nat.div_eq_of_lt (by omega)]
    omega

theorem div_scale_add_half {m a s : Nat} (hs : 0 < s) (h : a + s = 1074) :
    (m * 2 ^ a + 2 ^ 1073) / 2 ^ 1074 = (m + 2 ^ (s - 1)) / 2 ^ s := by
  rw [show (1073 : Nat) = a + (s - 1) by omega, show (1074 : Nat) = a + s by omega,
    Nat.pow_add, Nat.pow_add, show m * 2 ^ a + 2 ^ a * 2 ^ (s - 1) = 2 ^ a * (m + 2 ^ (s - 1)) by ring,
    Nat.mul_div_mul_left _ _ (Nat.two_pow_pos a)]

theorem roundHalfAway_def (x : Float) :
    x.roundHalfAway =
      if !x.isFinite then x
      else if 0 ≤ x.binaryExponent then x
      else
        let shift := (-x.binaryExponent).toNat
        let whole := x.significand / 2 ^ shift
        let rest := x.significand % 2 ^ shift
        let rounded := if 2 ^ shift ≤ 2 * rest then whole + 1 else whole
        if x.signBit then -(Float.ofNat rounded) else Float.ofNat rounded := rfl

/-- On a finite float, `roundHalfAway` gives a finite float whose value is the
value rounded to a whole number, a half away from zero.  At a non-negative
exponent the float is already whole; below it, the bits under the binary point
decide between the two neighbours. -/
theorem roundHalfAway_spec {x : Float} (h : x.isFinite = true) :
    x.roundHalfAway.isFinite = true ∧ x.roundHalfAway.scaled = roundHalfAwayUnits x.scaled := by
  obtain ⟨hm, he₁, he₂, -⟩ := canonical_of_isFinite h
  by_cases he : 0 ≤ x.binaryExponent
  · have hx : x.roundHalfAway = x := by simp [roundHalfAway_def, h, he]
    refine ⟨by rw [hx]; exact h, ?_⟩
    have hk : scaleMag x.significand x.binaryExponent =
        x.significand * 2 ^ x.binaryExponent.toNat * 2 ^ 1074 := by
      rw [scaleMag, Nat.mul_assoc, ← Nat.pow_add]
      congr 2
      omega
    rw [hx, scaled, signedValue, hk]
    generalize x.significand * 2 ^ x.binaryExponent.toNat = k
    cases x.sign <;> simp only [Sign.apply, roundHalfAwayUnits] <;> split_ifs <;> omega
  · set s := (-x.binaryExponent).toNat with hs
    have hs1 : 0 < s := by omega
    have hrounded := div_pow_add_half x.significand s hs1
    set r := (x.significand + 2 ^ (s - 1)) / 2 ^ s with hr
    have hr53 : r ≤ 2 ^ 53 := by
      have : x.significand / 2 ^ s ≤ x.significand / 2 ^ 1 :=
        Nat.div_le_div_left (Nat.pow_le_pow_right (by decide) hs1) (by decide)
      split_ifs at hrounded <;> omega
    have hx : x.roundHalfAway = if x.signBit then -(Float.ofNat r) else Float.ofNat r := by
      simp only [roundHalfAway_def, h, he, Bool.not_true, Bool.false_eq_true, if_false, ← hs,
        ← hrounded]
    have hM : (scaleMag x.significand x.binaryExponent + 2 ^ 1073) / 2 ^ 1074 = r :=
      div_scale_add_half hs1 (by omega)
    obtain ⟨hf, hsc⟩ := ofNat_spec hr53
    rw [hx, scaled_eq x]
    cases hb : x.signBit
    · simp only [if_false, Bool.false_eq_true]
      exact ⟨hf, by rw [hsc, roundHalfAwayUnits_natCast hM]⟩
    · obtain ⟨hf', hsc'⟩ := neg_spec hf
      simp only [if_true]
      exact ⟨hf', by rw [hsc', hsc, roundHalfAwayUnits_neg_natCast hM]⟩

/-! ## Truncating to a 64-bit integer -/

theorem truncatedMagnitude_eq {x : Float} (h : x.isFinite = true) :
    x.truncatedMagnitude = scaleMag x.significand x.binaryExponent / 2 ^ 1074 := by
  obtain ⟨-, he₁, -, -⟩ := canonical_of_isFinite h
  rw [truncatedMagnitude_def]
  unfold scaleMag
  split_ifs with he
  · rw [show (x.binaryExponent + 1074).toNat = x.binaryExponent.toNat + 1074 by omega, Nat.pow_add,
      ← Nat.mul_assoc, Nat.mul_div_cancel _ (Nat.two_pow_pos 1074)]
  · rw [show (1074 : Nat) = (x.binaryExponent + 1074).toNat + (-x.binaryExponent).toNat by omega,
      Nat.pow_add, Nat.mul_comm x.significand, Nat.mul_div_mul_left _ _ (Nat.two_pow_pos _)]

/-- On a finite float, `toIntSat` is the value truncated toward zero and
saturated at the ends of the signed 64-bit range. -/
theorem toIntSat_of_isFinite {x : Float} (h : x.isFinite = true) :
    x.toIntSat = max int64Min (min int64Max (x.scaled.tdiv (2 ^ 1074))) := by
  unfold toIntSat
  rw [isNaN_eq_false h, h, truncatedMagnitude_eq h, scaled_eq]
  have hU : ((2 ^ 1074 : Nat) : Int) = 2 ^ 1074 := by rw [Nat.cast_pow, Nat.cast_ofNat]
  cases x.signBit
  · simp only [Bool.not_true, Bool.false_eq_true, if_false, Int.ofNat_tdiv, hU]
  · simp only [Bool.not_true, Bool.false_eq_true, if_false, if_true, Int.neg_tdiv, Int.ofNat_tdiv,
      hU]

/-- A finite float whose value is an integer saturates to it. -/
theorem toIntSat_of_scaled {x : Float} {n : Int} (h : x.isFinite = true)
    (hs : x.scaled = n * 2 ^ 1074) : x.toIntSat = max int64Min (min int64Max n) := by
  rw [toIntSat_of_isFinite h, hs, Int.mul_tdiv_cancel _ (by positivity)]

/-- A finite float whose value is an integer in the signed 64-bit range
truncates to that integer. -/
theorem toIntSat_eq {x : Float} {n : Int} (h : x.isFinite = true) (hs : x.scaled = n * 2 ^ 1074)
    (hn : n.natAbs < 2 ^ 63) : x.toIntSat = n := by
  rw [toIntSat_of_scaled h hs]
  rw [int64Min_def, int64Max_def]
  omega

/-! ## Safe integers -/

/-- A float whose value is an integer of magnitude at most `2 ^ 53`; every
integer in that range is a float exactly, so such values survive a round
trip through `Int`. -/
def IsSafeInteger (x : Float) : Prop :=
  x.isFinite = true ∧ ∃ n : Int, n.natAbs ≤ 2 ^ 53 ∧ x.scaled = n * 2 ^ 1074

theorem isSafeInteger_iff (x : Float) :
    x.IsSafeInteger ↔
      x.isFinite = true ∧ x.toIntSat.natAbs ≤ 2 ^ 53 ∧ x.scaled = x.toIntSat * 2 ^ 1074 := by
  constructor
  · rintro ⟨hf, n, hn, hs⟩
    have ht : x.toIntSat = n := toIntSat_eq hf hs (by omega)
    exact ⟨hf, ht ▸ hn, ht ▸ hs⟩
  · rintro ⟨hf, hn, hs⟩
    exact ⟨hf, x.toIntSat, hn, hs⟩

instance : DecidablePred IsSafeInteger := fun x => decidable_of_iff _ (isSafeInteger_iff x).symm

/-- An integer float made by rounding and truncating a value that lies
between two safe integers lies between them too, and is itself safe. -/
theorem roundHalfAway_toIntSat_between {c lo hi : Float} (hc : c.isFinite = true)
    (hlo : lo.IsSafeInteger) (hhi : hi.IsSafeInteger) (h₁ : lo.scaled ≤ c.scaled)
    (h₂ : c.scaled ≤ hi.scaled) :
    c.roundHalfAway.toIntSat.natAbs ≤ 2 ^ 53 ∧ lo.scaled ≤ c.roundHalfAway.toIntSat * 2 ^ 1074 ∧
      c.roundHalfAway.toIntSat * 2 ^ 1074 ≤ hi.scaled := by
  obtain ⟨-, a, ha, hla⟩ := hlo
  obtain ⟨-, b, hb, hhb⟩ := hhi
  obtain ⟨hf, hr⟩ := roundHalfAway_spec hc
  obtain ⟨q, hq, haq, hqb⟩ := roundHalfAwayUnits_between (hla ▸ h₁) (hhb ▸ h₂)
  have ht : c.roundHalfAway.toIntSat = q := toIntSat_eq hf (hr.trans hq) (by omega)
  rw [ht, hla, hhb]
  exact ⟨by omega, Int.mul_le_mul_of_nonneg_right haq (by positivity),
    Int.mul_le_mul_of_nonneg_right hqb (by positivity)⟩

/-- A float that rounds to at least the safe integer `k` truncates to at
least `k`: saturation cannot fall below a bound inside the 64-bit range. -/
theorem le_roundHalfAway_toIntSat {x : Float} {k : Int} (hx : x.isFinite = true)
    (hk : k.natAbs ≤ 2 ^ 53) (h : Float.ofInt k ≤ x.roundHalfAway) :
    k ≤ x.roundHalfAway.toIntSat := by
  obtain ⟨hf, hr⟩ := roundHalfAway_spec hx
  obtain ⟨q, hq⟩ := roundHalfAwayUnits_eq_mul x.scaled
  obtain ⟨hkf, hks⟩ := ofInt_spec hk
  rw [le_iff_scaled hkf hf, hks, hr, hq] at h
  have hkq : k ≤ q := Int.le_of_mul_le_mul_right h (by positivity)
  rw [toIntSat_of_scaled hf (hr.trans hq)]
  rw [int64Min_def, int64Max_def]
  omega

/-! ## A value minus itself -/

theorem sub_build_self (s : Sign) (m : Nat) (e : Int) :
    UnpackedFloat.sub Format.binary64 (build s m e) (build s m e) = .zero .positive := by
  unfold build
  split
  · cases s <;> rfl
  · simp [UnpackedFloat.sub, decreaseExponent, UnpackedFloat.normalize]

/-- A finite float minus itself is a zero, so its magnitude is `0.0`. -/
theorem abs_sub_self {x : Float} (h : x.isFinite = true) : (x - x).abs = 0.0 := by
  have hu : (x - x).toModel.unpack = .zero .positive := by
    show (Float.Model.pack (UnpackedFloat.sub Format.binary64 x.toModel.unpack
      x.toModel.unpack)).unpack = _
    rw [toModel_unpack_of_isFinite h, sub_build_self]
    rfl
  show Float.ofModel (Float.Model.pack (x - x).toModel.unpack.abs) = 0.0
  rw [hu]
  rfl

end Float
