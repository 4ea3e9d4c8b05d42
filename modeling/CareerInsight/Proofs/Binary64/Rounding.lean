import Mathlib
import CareerInsight.Proofs.Binary64.Extended
import CareerInsight.Proofs.Binary64.Integer

/-!
# Rounding is monotone

Every arithmetic operation of the float model computes its exact result and
rounds it to nearest, ties to even, at the grid of the binade the result
falls in.  This file names that rounding and shows it monotone, so that
`+`, `-` and `*` by a factor that is not negative keep the order of their
operands.

* `rne a d` is `a / d` rounded to the nearest natural number, ties to the
  even one.  `rne_mono` says it is monotone in `a`, and `rne_le`,
  `le_rne` bound it by the multiples of `d` around `a`.
* `roundUnits V` rounds a magnitude `V`, counted in units of `2 ^ -2148`
  (a product of two floats is a whole number of them), to the float grid,
  and counts the result in units of `2 ^ -1074`.  `roundUnits_mono`: a
  larger magnitude never rounds smaller, also across binades.
* `roundWithAccuracy_spec` and `round_spec`: the model's rounding of a
  significand and exponent is `roundUnits` of its value, and the result
  overflows to an infinity exactly from `2 ^ 1024` (`extValue_pack`).
* `extValue_add`, `extValue_sub` and `extValue_mul`: the extended value of
  a sum, difference or product of finite floats is `roundExt` of the exact
  value.  So `add_le_add`, `sub_le_sub_left`, `mul_le_mul_of_nonneg_left`
  and `mul_le_mul_of_nonneg_right` hold with no condition on overflow.
-/

open Float.Model Float.Model.UnpackedFloat

namespace Float

/-! ## Nearest-even division -/

/-- `a / d` rounded to the nearest natural number, ties to the even one. -/
def rne (a d : Nat) : Nat :=
  if 2 * (a % d) < d then a / d
  else if d < 2 * (a % d) then a / d + 1
  else a / d + a / d % 2

/-- The quotient rounded down when the remainder is below half the divisor,
up when it is above, either way at a tie. -/
theorem rne_cases (a d : Nat) :
    (rne a d = a / d ∧ 2 * (a % d) ≤ d) ∨ (rne a d = a / d + 1 ∧ d ≤ 2 * (a % d)) := by
  unfold rne
  split
  · exact .inl ⟨rfl, by omega⟩
  · split
    · exact .inr ⟨rfl, by omega⟩
    · rcases Nat.mod_two_eq_zero_or_one (a / d) with h | h <;> rw [h]
      · exact .inl ⟨rfl, by omega⟩
      · exact .inr ⟨rfl, by omega⟩

/-- A larger dividend never rounds to a smaller quotient: two dividends that
round apart in the wrong order would share a quotient and a remainder. -/
theorem rne_mono {a a' d : Nat} (h : a ≤ a') : rne a d ≤ rne a' d := by
  have hq : a / d ≤ a' / d := Nat.div_le_div_right h
  have hdm := Nat.div_add_mod a d
  have hdm' := Nat.div_add_mod a' d
  rcases rne_cases a d with ⟨he, hr⟩ | ⟨he, hr⟩ <;>
    rcases rne_cases a' d with ⟨he', hr'⟩ | ⟨he', hr'⟩ <;> rw [he, he']
  · exact hq
  · omega
  · rcases Nat.lt_or_ge (a / d) (a' / d) with hlt | hge
    · omega
    · have hqe : a / d = a' / d := le_antisymm hq hge
      rw [hqe] at hdm
      have haa : a = a' := by omega
      subst haa
      omega
  · omega

/-- A dividend at most `c` multiples of `d` rounds to at most `c`.  Rounding
up needs a remainder, so the quotient was below `c`. -/
theorem rne_le {a d c : Nat} (hd : 0 < d) (h : a ≤ c * d) : rne a d ≤ c := by
  have hq : a / d ≤ c := Nat.div_le_of_le_mul (by rw [Nat.mul_comm]; exact h)
  have hdm := Nat.div_add_mod a d
  rcases rne_cases a d with ⟨he, -⟩ | ⟨he, hr⟩ <;> rw [he]
  · exact hq
  · rcases Nat.lt_or_ge (a / d) c with hlt | hge
    · omega
    · have hqc : a / d = c := le_antisymm hq hge
      rw [hqc, Nat.mul_comm] at hdm
      omega

/-- A dividend at least `c` multiples of `d` rounds to at least `c`. -/
theorem le_rne {a d c : Nat} (hd : 0 < d) (h : c * d ≤ a) : c ≤ rne a d := by
  have hq : c ≤ a / d := (Nat.le_div_iff_mul_le hd).2 h
  rcases rne_cases a d with ⟨he, -⟩ | ⟨he, -⟩ <;> rw [he] <;> omega

/-- Scaling dividend and divisor together leaves the rounded quotient. -/
theorem rne_scale (a d c : Nat) (hc : 0 < c) : rne (a * c) (d * c) = rne a d := by
  unfold rne
  rw [Nat.mul_div_mul_right _ _ hc, Nat.mul_mod_mul_right]
  have e1 : 2 * (a % d * c) = 2 * (a % d) * c := by rw [Nat.mul_assoc]
  have i1 : 2 * (a % d) * c < d * c ↔ 2 * (a % d) < d := Nat.mul_lt_mul_right hc
  have i2 : d * c < 2 * (a % d) * c ↔ d < 2 * (a % d) := Nat.mul_lt_mul_right hc
  simp only [e1, i1, i2]

/-! ## The model's shift -/

/-- Shifting an exact significand right by `k` leaves its quotient by `2 ^ k`;
the round bit says the remainder is at least half of `2 ^ k`, and the sticky
bit that it is neither zero nor exactly half.  Each shift adds the bit shifted
out to the remainder. -/
theorem shiftRight_ofExact (M k : Nat) :
    ExtendedMantissa.ofMantissaAndAccuracy M .exact >>> k =
      ⟨M / 2 ^ k, decide (2 ^ k ≤ 2 * (M % 2 ^ k)),
        decide (M % 2 ^ k ≠ 0 ∧ 2 * (M % 2 ^ k) ≠ 2 ^ k)⟩ := by
  induction k with
  | zero =>
    simp [ExtendedMantissa.ofMantissaAndAccuracy, HShiftRight.hShiftRight, Nat.repeat, Nat.mod_one]
  | succ k ih =>
    show ExtendedMantissa.shiftRightOne (ExtendedMantissa.ofMantissaAndAccuracy M .exact >>> k) = _
    rw [ih]
    have hmod : M % 2 ^ (k + 1) = M % 2 ^ k + 2 ^ k * (M / 2 ^ k % 2) := Nat.mod_pow_succ
    have hlt := Nat.mod_lt M (Nat.two_pow_pos k)
    have hpow : 2 ^ (k + 1) = 2 * 2 ^ k := Nat.pow_succ'
    simp only [ExtendedMantissa.shiftRightOne, ExtendedMantissa.mk.injEq]
    refine ⟨by rw [Nat.div_div_eq_div_mul, ← Nat.pow_succ], ?_, ?_⟩
    all_goals
      rcases Nat.mod_two_eq_zero_or_one (M / 2 ^ k) with h | h <;>
        (rw [hmod, hpow, h, Bool.eq_iff_iff]; simp) <;> omega

/-- The model rounds a significand shifted right by `k` to nearest, ties to
even: its residual bits decide between the quotient and its successor as
`rne` does. -/
theorem roundedMantissa_shiftRight (M k : Nat) :
    (ExtendedMantissa.ofMantissaAndAccuracy M .exact >>> k).roundedMantissa = rne M (2 ^ k) := by
  rw [shiftRight_ofExact]
  unfold ExtendedMantissa.roundedMantissa rne
  have hP := Nat.two_pow_pos k
  rcases Nat.lt_trichotomy (2 * (M % 2 ^ k)) (2 ^ k) with h | h | h
  · by_cases h0 : M % 2 ^ k = 0 <;>
      simp [h, h0, Nat.not_le.2 h, Nat.ne_of_lt h, ExtendedMantissa.accuracy,
        Accuracy.roundToNearestEven]
  · have h0 : M % 2 ^ k ≠ 0 := by omega
    simp [h, h0, ExtendedMantissa.accuracy, Accuracy.roundToNearestEven]
  · have h0 : M % 2 ^ k ≠ 0 := by omega
    simp [h, h0, Nat.not_lt.2 h.le, Nat.le_of_lt h, Nat.ne_of_gt h, ExtendedMantissa.accuracy,
      Accuracy.roundToNearestEven]

/-! ## Rounding a magnitude to the float grid -/

theorem log2_le_log2 {V V' : Nat} (h : V ≤ V') : V.log2 ≤ V'.log2 := by
  rcases Nat.eq_zero_or_pos V with rfl | hV
  · simp [Nat.log2_zero]
  · exact (Nat.le_log2 (by omega)).2 ((Nat.log2_self_le hV.ne').trans h)

/-- The exponent, in units of `2 ^ -2148`, of the grid a magnitude in those
units rounds to: 53 significant bits, and never finer than the least
subnormal `2 ^ -1074`. -/
def gridExp (V : Nat) : Nat := max (V.log2 - 52) 1074

/-- A magnitude in units of `2 ^ -2148` rounded to nearest, ties to even, at
its grid, and counted in units of `2 ^ -1074`. -/
def roundUnits (V : Nat) : Nat := rne V (2 ^ gridExp V) * 2 ^ (gridExp V - 1074)

theorem gridExp_mono {V V' : Nat} (h : V ≤ V') : gridExp V ≤ gridExp V' := by
  have := log2_le_log2 h
  unfold gridExp
  omega

/-- A magnitude lies below 53 bits of its grid. -/
theorem lt_two_pow_gridExp (V : Nat) : V < 2 ^ 53 * 2 ^ gridExp V := by
  rw [← Nat.pow_add]
  calc V < 2 ^ (V.log2 + 1) := Nat.lt_log2_self
    _ ≤ 2 ^ (53 + gridExp V) := Nat.pow_le_pow_right (by decide) (by unfold gridExp; omega)

/-- Above the subnormal range a magnitude has its 53rd bit set. -/
theorem two_pow_gridExp_le {V : Nat} (h : 1074 < gridExp V) : 2 ^ 52 * 2 ^ gridExp V ≤ V := by
  have hlog : gridExp V = V.log2 - 52 := by unfold gridExp at h ⊢; omega
  have hV : V ≠ 0 := by
    rintro rfl
    simp [gridExp, Nat.log2_zero] at h
  rw [← Nat.pow_add]
  calc 2 ^ (52 + gridExp V) ≤ 2 ^ V.log2 := Nat.pow_le_pow_right (by decide) (by omega)
    _ ≤ V := Nat.log2_self_le hV

/-- A larger magnitude never rounds smaller.  In one binade this is
`rne_mono`; across binades the smaller one rounds to at most the top of
its binade, which is at most the bottom of the larger one's. -/
theorem roundUnits_mono {V V' : Nat} (h : V ≤ V') : roundUnits V ≤ roundUnits V' := by
  have ht := gridExp_mono h
  have h₁ : 1074 ≤ gridExp V := le_max_right _ _
  unfold roundUnits
  rcases ht.lt_or_eq with hlt | heq
  · have hup : rne V (2 ^ gridExp V) ≤ 2 ^ 53 :=
      rne_le (Nat.two_pow_pos _) (lt_two_pow_gridExp V).le
    have hdown : 2 ^ 52 ≤ rne V' (2 ^ gridExp V') :=
      le_rne (Nat.two_pow_pos _) (two_pow_gridExp_le (by omega))
    calc rne V (2 ^ gridExp V) * 2 ^ (gridExp V - 1074)
        ≤ 2 ^ 53 * 2 ^ (gridExp V - 1074) := Nat.mul_le_mul_right _ hup
      _ ≤ 2 ^ 52 * 2 ^ (gridExp V' - 1074) := by
        rw [← Nat.pow_add, ← Nat.pow_add]
        exact Nat.pow_le_pow_right (by decide) (by omega)
      _ ≤ rne V' (2 ^ gridExp V') * 2 ^ (gridExp V' - 1074) := Nat.mul_le_mul_right _ hdown
  · rw [heq]
    exact Nat.mul_le_mul_right _ (rne_mono h)

theorem roundUnits_zero : roundUnits 0 = 0 := by
  simp [roundUnits, rne]

/-! ## The model's rounding -/

/-- The shape of a rounded significand and exponent: a canonical pair
without the upper bound on the exponent, past which packing overflows. -/
def Rounded (m : Nat) (e : Int) : Prop := m < 2 ^ 53 ∧ -1074 ≤ e ∧ (2 ^ 52 ≤ m ∨ e = -1074)

theorem targetExponent_eq (M : Nat) (E : Int) :
    Format.binary64.targetExponent (totalExponent M E) =
      max ((M.log2 : Int) + 1 + E - 53) (-1074) := rfl

/-- Shifting a significand of at most 53 bits to its target: a 53-bit one
loses its last bit, which is zero, and any other stays where it is. -/
theorem shiftToTargetExponent_rounded {m : Nat} {T : Int} (hm : m ≤ 2 ^ 53) (hT : -1074 ≤ T) :
    shiftToTargetExponent Format.binary64 m T .exact =
      if m = 2 ^ 53 then (⟨2 ^ 52, false, false⟩, T + 1) else (⟨m, false, false⟩, T) := by
  simp only [shiftToTargetExponent, shiftToExponent, targetExponent_eq]
  split_ifs with h53
  · subst h53
    have hl : (2 ^ 53 : Nat).log2 = 53 := Nat.log2_two_pow
    rw [hl, show (max (((53 : Nat) : Int) + 1 + T - 53) (-1074) - T).toNat = 1 by omega,
      shiftRight_ofExact]
    simp
  · have hl : m.log2 ≤ 52 := by
      rcases Nat.eq_zero_or_pos m with rfl | hpos
      · simp [Nat.log2_zero]
      · exact Nat.le_of_lt_succ ((Nat.log2_lt hpos.ne').2 (by omega))
    rw [show (max ((m.log2 : Int) + 1 + T - 53) (-1074) - T).toNat = 0 by omega, shiftRight_ofExact]
    simp [Nat.mod_one]

/-- The model's rounding of an exact significand `M` at an exponent `E` not
above its target: the significand is cut to the target's grid, rounded to
nearest, ties to even, and shifted once more if that carried into a 54th bit.
The result has the rounded shape and the value `roundUnits` of the exact
value.  Above the subnormal range the target keeps 53 bits, so the hidden bit
is set. -/
theorem roundWithAccuracy_spec (s : Sign) {M : Nat} {E : Int} (hM : 0 < M) (hE : -2148 ≤ E)
    (hT : E ≤ Format.binary64.targetExponent (totalExponent M E)) :
    ∃ m e, roundWithAccuracy Format.binary64 s M E .exact = build s m e ∧ Rounded m e ∧
      scaleMag m e = roundUnits (M * 2 ^ (E + 2148).toNat) := by
  rw [targetExponent_eq] at hT
  obtain ⟨k, hk⟩ : ∃ k : Nat, max ((M.log2 : Int) + 1 + E - 53) (-1074) = E + k :=
    ⟨(max ((M.log2 : Int) + 1 + E - 53) (-1074) - E).toNat, by omega⟩
  have hfirst : shiftToTargetExponent Format.binary64 M E .exact =
      (ExtendedMantissa.ofMantissaAndAccuracy M .exact >>> k, E + k) := by
    simp only [shiftToTargetExponent, shiftToExponent, targetExponent_eq, hk,
      show (E + k - E).toNat = k by omega]
  have hMlt : M < 2 ^ 53 * 2 ^ k := by
    rw [← Nat.pow_add]
    calc M < 2 ^ (M.log2 + 1) := Nat.lt_log2_self
      _ ≤ 2 ^ (53 + k) := Nat.pow_le_pow_right (by decide) (by omega)
  have hup : rne M (2 ^ k) ≤ 2 ^ 53 := rne_le (Nat.two_pow_pos k) hMlt.le
  have hnorm : -1074 < E + k → 2 ^ 52 ≤ rne M (2 ^ k) := fun h =>
    le_rne (Nat.two_pow_pos k) (by
      rw [← Nat.pow_add]
      calc 2 ^ (52 + k) ≤ 2 ^ M.log2 := Nat.pow_le_pow_right (by decide) (by omega)
        _ ≤ M := Nat.log2_self_le hM.ne')
  have hres : roundWithAccuracy Format.binary64 s M E .exact =
      build s (if rne M (2 ^ k) = 2 ^ 53 then 2 ^ 52 else rne M (2 ^ k))
        (if rne M (2 ^ k) = 2 ^ 53 then E + k + 1 else E + k) := by
    unfold roundWithAccuracy
    rw [hfirst]
    dsimp only
    rw [roundedMantissa_shiftRight, shiftToTargetExponent_rounded hup (by omega)]
    by_cases h53 : rne M (2 ^ k) = 2 ^ 53
    · simp only [if_pos h53]
      rfl
    · simp only [if_neg h53]
      rfl
  refine ⟨_, _, hres, ?_, ?_⟩
  · split_ifs with h53
    · exact ⟨by decide, by omega, Or.inl le_rfl⟩
    · refine ⟨by omega, by omega, ?_⟩
      by_cases hsub : E + k = -1074
      · exact Or.inr hsub
      · exact Or.inl (hnorm (by omega))
  · have hgrid : gridExp (M * 2 ^ (E + 2148).toNat) = k + (E + 2148).toNat := by
      unfold gridExp
      rw [log2_mul_two_pow hM.ne']
      omega
    unfold roundUnits scaleMag
    rw [hgrid, Nat.pow_add, rne_scale _ _ _ (Nat.two_pow_pos _)]
    split_ifs with h53
    · have hexp : (E + k + 1 + 1074).toNat = k + (E + 2148).toNat - 1074 + 1 := by omega
      rw [h53, hexp, pow_succ 2 52, Nat.pow_succ]
      ring
    · have hexp : (E + k + 1074).toNat = k + (E + 2148).toNat - 1074 := by omega
      rw [hexp]

/-- The model's rounding with the exponent first lowered to the target: the
value and the target are unchanged, so it is `roundUnits` of the value. -/
theorem round_spec (s : Sign) {M : Nat} {E : Int} (hM : 0 < M) (hE : -2148 ≤ E) :
    ∃ m e, UnpackedFloat.round Format.binary64 s M E = build s m e ∧ Rounded m e ∧
      scaleMag m e = roundUnits (M * 2 ^ (E + 2148).toNat) := by
  have hT := targetExponent_eq M E
  obtain ⟨j, hj⟩ : ∃ j : Nat, (E - Format.binary64.targetExponent (totalExponent M E)).toNat = j :=
    ⟨_, rfl⟩
  have hdec : UnpackedFloat.round Format.binary64 s M E =
      roundWithAccuracy Format.binary64 s (M * 2 ^ j) (E - j) .exact := by
    simp only [UnpackedFloat.round, decreaseExponent, hj, Nat.shiftLeft_eq]
  have htot : totalExponent (M * 2 ^ j) (E - j) = totalExponent M E := by
    simp only [totalExponent, log2_mul_two_pow hM.ne' j]
    push_cast
    ring
  have hE' : -2148 ≤ E - (j : Int) := by omega
  have hT' : E - (j : Int) ≤ Format.binary64.targetExponent (totalExponent (M * 2 ^ j) (E - j)) := by
    rw [htot]
    omega
  obtain ⟨m, e, h, hr, hv⟩ := roundWithAccuracy_spec s (Nat.mul_pos hM (Nat.two_pow_pos j)) hE' hT'
  refine ⟨m, e, hdec.trans h, hr, hv.trans ?_⟩
  have hexp : j + (E - j + 2148).toNat = (E + 2148).toNat := by omega
  rw [Nat.mul_assoc, ← Nat.pow_add, hexp]

/-! ## Packing a rounded float -/

/-- Packing a rounded float gives it back, or the infinity of its sign when
its exponent is past the format's. -/
theorem unpack_pack_rounded (s : Sign) {m : Nat} {e : Int} (h : Rounded m e) :
    (Float.Model.pack (build s m e)).unpack = if e ≤ 971 then build s m e else .infinity s := by
  split_ifs with he
  · exact unpack_pack_build ⟨h.1, h.2.1, he, h.2.2⟩
  · have hm : 2 ^ 52 ≤ m := h.2.2.resolve_right (by omega)
    have hz : m ≠ 0 := by omega
    rw [model_pack_unpack]
    simp only [build, hz, dite_false, UnpackedFloat.pack]
    rw [if_pos (by rw [binary64_exponentBias]; show 2 ^ 11 ≤ _; omega)]
    cases s <;> rfl

/-! ## Extended values of rounded results -/

/-- A magnitude in units of `2 ^ -1074` with a sign, as an extended value:
the infinity of the sign from `2 ^ 1024` on. -/
def extOf (s : Sign) (n : Nat) : WithBot (WithTop Int) :=
  if n < 2 ^ 2098 then ((s.apply n : Int) : WithTop Int) else signExtreme s

/-- A rounded float fits below `2 ^ 1024` exactly when its exponent fits the
format. -/
theorem scaleMag_lt_iff {m : Nat} {e : Int} (h : Rounded m e) :
    scaleMag m e < 2 ^ 2098 ↔ e ≤ 971 := by
  obtain ⟨hlt, he, hn⟩ := h
  unfold scaleMag
  constructor
  · intro hs
    by_contra hbig
    have h52 : 2 ^ 52 ≤ m := hn.resolve_right (by omega)
    have : 2 ^ 2098 ≤ m * 2 ^ (e + 1074).toNat :=
      calc 2 ^ 2098 = 2 ^ 52 * 2 ^ 2046 := by rw [← Nat.pow_add]
        _ ≤ m * 2 ^ (e + 1074).toNat :=
          Nat.mul_le_mul h52 (Nat.pow_le_pow_right (by decide) (by omega))
    omega
  · intro hfit
    calc m * 2 ^ (e + 1074).toNat < 2 ^ 53 * 2 ^ (e + 1074).toNat :=
          Nat.mul_lt_mul_of_pos_right hlt (Nat.two_pow_pos _)
      _ ≤ 2 ^ 53 * 2 ^ 2045 := Nat.mul_le_mul_left _ (Nat.pow_le_pow_right (by decide) (by omega))
      _ = 2 ^ 2098 := by rw [← Nat.pow_add]

/-- A float that packs a rounded result is no NaN, and its extended value is
the signed magnitude, or the infinity of its sign past the format. -/
theorem extValue_pack {z : Float} {s : Sign} {m : Nat} {e : Int} (h : Rounded m e)
    (hz : z.toModel = Float.Model.pack (build s m e)) :
    z.isNaN = false ∧ z.extValue = extOf s (scaleMag m e) := by
  have hu : z.toModel.unpack = if e ≤ 971 then build s m e else .infinity s := by
    rw [hz, unpack_pack_rounded s h]
  unfold extOf
  split_ifs at hu with he
  · obtain ⟨hf, hs⟩ := scaled_of_unpack hu
    have hfit : scaleMag m e < 2 ^ 2098 := (scaleMag_lt_iff h).2 he
    rw [if_pos hfit, extValue_of_isFinite hf, hs]
    exact ⟨isNaN_eq_false hf, rfl⟩
  · have hf : z.isFinite = false := by
      show z.toModel.unpack.isFinite = false
      rw [hu]
      rfl
    have hn : z.isNaN = false := by
      rw [isNaN_eq_unpack, hu]
      rfl
    have hsign : z.sign = s := by
      have := toModel_unpack_of_infinite hf hn
      rw [hu] at this
      cases this
      rfl
    rw [if_neg (fun hfit => he ((scaleMag_lt_iff h).1 hfit)), extValue_of_infinite hf, hsign]
    exact ⟨hn, rfl⟩

/-- An unpacked result that is the exact value `V`, counted in units of
`2 ^ -2148`, rounded: a rounded float of magnitude `roundUnits |V|`, with the
sign of `V` when `V` is not zero. -/
def RoundsTo (u : UnpackedFloat) (V : Int) : Prop :=
  ∃ s m e, u = build s m e ∧ Rounded m e ∧ scaleMag m e = roundUnits V.natAbs ∧ s.apply V.natAbs = V

/-- The extended value that the exact value `V`, counted in units of
`2 ^ -2148`, rounds to. -/
def roundExt (V : Int) : WithBot (WithTop Int) :=
  extOf (if V < 0 then .negative else .positive) (roundUnits V.natAbs)

theorem apply_zero (s : Sign) : s.apply 0 = 0 := by
  cases s <;> rfl

/-- A float that packs a rounding of `V` has the extended value `roundExt V`. -/
theorem extValue_of_roundsTo {z : Float} {u : UnpackedFloat} {V : Int} (h : RoundsTo u V)
    (hz : z.toModel = Float.Model.pack u) : z.isNaN = false ∧ z.extValue = roundExt V := by
  obtain ⟨s, m, e, rfl, hr, hv, hs⟩ := h
  obtain ⟨hn, he⟩ := extValue_pack hr hz
  refine ⟨hn, he.trans ?_⟩
  unfold roundExt
  rw [hv]
  rcases lt_trichotomy V 0 with hV | rfl | hV
  · have : s = .negative := by
      cases s
      · rfl
      · simp only [Sign.apply] at hs
        omega
    rw [this, if_pos hV]
  · rw [Int.natAbs_zero, roundUnits_zero]
    unfold extOf
    rw [if_pos (Nat.two_pow_pos _), if_pos (Nat.two_pow_pos _), Nat.cast_zero, apply_zero, apply_zero]
  · have : s = .positive := by
      cases s
      · simp only [Sign.apply] at hs
        omega
      · rfl
    rw [this, if_neg (by omega)]

theorem extOf_positive_mono {n n' : Nat} (h : n ≤ n') : extOf .positive n ≤ extOf .positive n' := by
  unfold extOf
  split_ifs with h₁ h₂ h₂
  · exact WithBot.coe_le_coe.2 (WithTop.coe_le_coe.2 (by simp only [Sign.apply]; omega))
  · exact le_top
  · omega
  · exact le_rfl

theorem extOf_negative_anti {n n' : Nat} (h : n ≤ n') : extOf .negative n' ≤ extOf .negative n := by
  unfold extOf
  split_ifs with h₁ h₂ h₂
  · exact WithBot.coe_le_coe.2 (WithTop.coe_le_coe.2 (by simp only [Sign.apply]; omega))
  · omega
  · exact bot_le
  · exact le_rfl

theorem extOf_negative_le_positive (n n' : Nat) : extOf .negative n ≤ extOf .positive n' := by
  unfold extOf
  split_ifs
  · exact WithBot.coe_le_coe.2 (WithTop.coe_le_coe.2 (by simp only [Sign.apply]; omega))
  · exact le_top
  · exact bot_le
  · exact bot_le

/-- Rounding is monotone on exact values of either sign: on each side of zero
by `roundUnits_mono`, and a negative value rounds to at most zero. -/
theorem roundExt_mono {V V' : Int} (h : V ≤ V') : roundExt V ≤ roundExt V' := by
  unfold roundExt
  by_cases hV : V < 0 <;> by_cases hV' : V' < 0 <;> simp only [hV, hV', if_true, if_false]
  · exact extOf_negative_anti (roundUnits_mono (by omega))
  · exact extOf_negative_le_positive _ _
  · omega
  · exact extOf_positive_mono (roundUnits_mono (by omega))

/-! ## The operations round their exact results -/

theorem apply_neg_sign (s : Sign) (n : Int) : (-s).apply n = -s.apply n := by
  cases s <;> simp [Sign.apply]

theorem apply_mul (s : Sign) (a c : Int) : s.apply (a * c) = s.apply a * c := by
  cases s <;> simp [Sign.apply]

theorem apply_mul_apply (s t : Sign) (a b : Int) : s.apply a * t.apply b = (s * t).apply (a * b) := by
  cases s <;> cases t <;> simp [Sign.apply]

theorem natAbs_apply (s : Sign) (n : Nat) : (s.apply (n : Int)).natAbs = n := by
  cases s <;> simp [Sign.apply]

/-- A signed magnitude scaled by a power of two, read back from its
magnitude and sign. -/
theorem apply_natAbs_apply_mul (s : Sign) (n k : Nat) :
    s.apply ((s.apply (n : Int) * 2 ^ k).natAbs : Int) = s.apply (n : Int) * 2 ^ k := by
  rw [Int.natAbs_mul, natAbs_apply, Int.natAbs_pow]
  push_cast
  rw [apply_mul]

theorem scaleMag_mul_two_pow (m : Nat) {e : Int} (he : -1074 ≤ e) :
    scaleMag m e * 2 ^ 1074 = m * 2 ^ (e + 2148).toNat := by
  have hexp : (e + 1074).toNat + 1074 = (e + 2148).toNat := by omega
  rw [scaleMag, Nat.mul_assoc, ← Nat.pow_add, hexp]

/-- The model subtracts by adding the negation. -/
theorem sub_eq_add_neg (a b : UnpackedFloat) :
    UnpackedFloat.sub Format.binary64 a b = UnpackedFloat.add Format.binary64 a b.neg := by
  cases a <;> cases b <;>
    simp [UnpackedFloat.sub, UnpackedFloat.add, UnpackedFloat.neg, apply_neg_sign, Int.sub_eq_add_neg]

theorem roundsTo_zero (s : Sign) : RoundsTo (.zero s) 0 :=
  ⟨s, 0, -1074, rfl, ⟨by decide, le_rfl, Or.inr rfl⟩, roundUnits_zero.symm, apply_zero s⟩

theorem build_inj {s s' : Sign} {m m' : Nat} {e e' : Int} (hm : 0 < m)
    (h : build s m e = build s' m' e') : m = m' ∧ e = e' := by
  have hm' : m' ≠ 0 := by
    rintro rfl
    simp [build, hm.ne'] at h
  simp only [build, hm.ne', hm', dite_false, UnpackedFloat.finite.injEq] at h
  exact ⟨h.2.1, h.2.2⟩

/-- A canonical float is its own rounding: rounding its exact value gives it
back, so the value is a fixed point of `roundUnits`. -/
theorem roundsTo_build (s : Sign) {m : Nat} {e : Int} (h : Canonical m e) :
    RoundsTo (build s m e) (signedValue s m e * 2 ^ 1074) := by
  rcases Nat.eq_zero_or_pos m with rfl | hm
  · rw [signedValue_zero, Int.zero_mul]
    exact roundsTo_zero s
  have hexact := roundWithAccuracy_exact (s := s) h hm 0
  simp only [Nat.pow_zero, Nat.mul_one, Nat.cast_zero, Int.sub_zero] at hexact
  have htarget : Format.binary64.targetExponent (totalExponent m e) = e := by
    simpa using targetExponent_of_canonical h hm 0
  have hE : -2148 ≤ e := by
    have := h.2.1
    omega
  have hT : e ≤ Format.binary64.targetExponent (totalExponent m e) := by rw [htarget]
  obtain ⟨m', e', hround, -, hv⟩ := roundWithAccuracy_spec s hm hE hT
  obtain ⟨rfl, rfl⟩ := build_inj hm (hexact.symm.trans hround)
  refine ⟨s, m, e, rfl, ⟨h.1, h.2.1, h.2.2.2⟩, ?_, apply_natAbs_apply_mul s _ 1074⟩
  rw [hv, signedValue, Int.natAbs_mul, natAbs_apply, Int.natAbs_pow,
    show (2 : Int).natAbs = 2 from rfl, scaleMag_mul_two_pow m h.2.1]

/-- Normalizing a signed significand at an exponent rounds its value. -/
theorem roundsTo_normalize (N : Int) {E : Int} (hE : -2148 ≤ E) (z : Sign) :
    RoundsTo (UnpackedFloat.normalize Format.binary64 N E z) (N * 2 ^ (E + 2148).toNat) := by
  have habs : (N * 2 ^ (E + 2148).toNat).natAbs = N.natAbs * 2 ^ (E + 2148).toNat := by
    rw [Int.natAbs_mul, Int.natAbs_pow]
    rfl
  unfold UnpackedFloat.normalize
  rcases lt_trichotomy N 0 with hN | rfl | hN
  · rw [Int.compare_eq_lt.2 hN]
    obtain ⟨m, e, h, hr, hv⟩ := round_spec .negative (show 0 < (-N).toNat by omega) hE
    refine ⟨.negative, m, e, h, hr, by rw [hv, habs, show (-N).toNat = N.natAbs by omega], ?_⟩
    rw [habs]
    simp only [Sign.apply]
    push_cast
    rw [abs_of_neg hN]
    ring
  · rw [Int.zero_mul]
    exact roundsTo_zero z
  · rw [Int.compare_eq_gt.2 hN]
    obtain ⟨m, e, h, hr, hv⟩ := round_spec .positive (show 0 < N.toNat by omega) hE
    refine ⟨.positive, m, e, h, hr, by rw [hv, habs, show N.toNat = N.natAbs by omega], ?_⟩
    rw [habs]
    simp only [Sign.apply]
    push_cast
    rw [abs_of_pos hN]

/-- A canonical value counted on the grid of a lower exponent. -/
theorem signedValue_shift (s : Sign) (m : Nat) {e E : Int} (hE : -1074 ≤ E) (he : E ≤ e) :
    signedValue s m e = s.apply ((m <<< (e - E).toNat : Nat) : Int) * 2 ^ (E + 1074).toNat := by
  rw [signedValue, scaleMag, ← apply_mul, Nat.shiftLeft_eq]
  congr 1
  have hexp : (e - E).toNat + (E + 1074).toNat = (e + 1074).toNat := by omega
  push_cast
  rw [Int.mul_assoc, ← Int.pow_add, hexp]

/-- The model's sum of two canonical floats is their exact sum rounded.  Both
significands are brought to the smaller exponent and added exactly; two zeros
give a zero. -/
theorem roundsTo_add {sx sy : Sign} {mx my : Nat} {ex ey : Int} (hx : Canonical mx ex)
    (hy : Canonical my ey) :
    RoundsTo (UnpackedFloat.add Format.binary64 (build sx mx ex) (build sy my ey))
      ((signedValue sx mx ex + signedValue sy my ey) * 2 ^ 1074) := by
  rcases Nat.eq_zero_or_pos mx with rfl | hmx <;> rcases Nat.eq_zero_or_pos my with rfl | hmy
  · rw [signedValue_zero, signedValue_zero, Int.add_zero, Int.zero_mul]
    simp only [build, dite_true, UnpackedFloat.add]
    split <;> exact roundsTo_zero _
  · rw [signedValue_zero, Int.zero_add]
    simpa [build, hmy.ne', UnpackedFloat.add] using roundsTo_build sy hy
  · rw [signedValue_zero, Int.add_zero]
    simpa [build, hmx.ne', UnpackedFloat.add] using roundsTo_build sx hx
  · have hE : -1074 ≤ min ex ey := le_min hx.2.1 hy.2.1
    rw [signedValue_shift sx mx hE (min_le_left ex ey), signedValue_shift sy my hE (min_le_right ex ey),
      ← Int.add_mul, Int.mul_assoc, ← Int.pow_add, show (min ex ey + 1074).toNat + 1074 =
        (min ex ey + 2148).toNat by omega]
    simp only [build, hmx.ne', hmy.ne', dite_false, UnpackedFloat.add, decreaseExponent]
    exact roundsTo_normalize _ (by omega) _

/-- The model's difference of two canonical floats is their exact difference
rounded. -/
theorem roundsTo_sub {sx sy : Sign} {mx my : Nat} {ex ey : Int} (hx : Canonical mx ex)
    (hy : Canonical my ey) :
    RoundsTo (UnpackedFloat.sub Format.binary64 (build sx mx ex) (build sy my ey))
      ((signedValue sx mx ex - signedValue sy my ey) * 2 ^ 1074) := by
  rw [sub_eq_add_neg, neg_build, Int.sub_eq_add_neg, ← signedValue_neg]
  exact roundsTo_add hx hy

/-- A product of two canonical significands has its target at or above its
exponent: one of them has its hidden bit set, or both exponents are the
least one. -/
theorem exponent_le_target_mul {mx my : Nat} {ex ey : Int} (hx : Canonical mx ex)
    (hy : Canonical my ey) (hmx : 0 < mx) (hmy : 0 < my) :
    ex + ey ≤ Format.binary64.targetExponent (totalExponent (mx * my) (ex + ey)) := by
  rw [targetExponent_eq]
  have hwide : 52 ≤ (mx * my).log2 ∨ (ex = -1074 ∧ ey = -1074) := by
    rcases hx.2.2.2 with hnx | hex
    · exact Or.inl ((Nat.le_log2 (by positivity)).2 (hnx.trans (Nat.le_mul_of_pos_right mx hmy)))
    · rcases hy.2.2.2 with hny | hey
      · exact Or.inl ((Nat.le_log2 (by positivity)).2 (hny.trans (Nat.le_mul_of_pos_left my hmx)))
      · exact Or.inr ⟨hex, hey⟩
  omega

/-- The model's product of two canonical floats is their exact product
rounded; the product is a whole number of units of `2 ^ -2148`. -/
theorem roundsTo_mul {sx sy : Sign} {mx my : Nat} {ex ey : Int} (hx : Canonical mx ex)
    (hy : Canonical my ey) :
    RoundsTo (UnpackedFloat.mul Format.binary64 (build sx mx ex) (build sy my ey))
      (signedValue sx mx ex * signedValue sy my ey) := by
  rcases Nat.eq_zero_or_pos mx with rfl | hmx
  · rw [signedValue_zero, Int.zero_mul]
    rcases Nat.eq_zero_or_pos my with rfl | hmy
    · exact roundsTo_zero _
    · simpa [build, hmy.ne', UnpackedFloat.mul] using roundsTo_zero (sx * sy)
  rcases Nat.eq_zero_or_pos my with rfl | hmy
  · rw [signedValue_zero, Int.mul_zero]
    simpa [build, hmx.ne', UnpackedFloat.mul] using roundsTo_zero (sx * sy)
  simp only [build, hmx.ne', hmy.ne', dite_false, UnpackedFloat.mul]
  obtain ⟨m, e, h, hr, hv⟩ := roundWithAccuracy_spec (sx * sy) (Nat.mul_pos hmx hmy)
    (show -2148 ≤ ex + ey by have := hx.2.1; have := hy.2.1; omega)
    (exponent_le_target_mul hx hy hmx hmy)
  have hval : signedValue sx mx ex * signedValue sy my ey =
      (sx * sy).apply (((mx * my * 2 ^ (ex + ey + 2148).toNat : Nat) : Int)) := by
    rw [signedValue, signedValue, apply_mul_apply]
    congr 1
    have hexp : (ex + 1074).toNat + (ey + 1074).toNat = (ex + ey + 2148).toNat := by
      have := hx.2.1
      have := hy.2.1
      omega
    simp only [scaleMag]
    push_cast
    rw [← hexp, pow_add]
    ring
  refine ⟨sx * sy, m, e, h, hr, by rw [hv, hval, natAbs_apply], by rw [hval, natAbs_apply]⟩

/-! ## Floats -/

/-- A float computed by an operation of the model from two finite floats,
when that operation rounds the exact value `V` of their unpacked forms, is
no NaN and has the extended value `roundExt V`. -/
theorem extValue_of_op {x y z : Float} (op : UnpackedFloat → UnpackedFloat → UnpackedFloat)
    {V : Int} (hx : x.isFinite = true) (hy : y.isFinite = true)
    (hz : z.toModel = Float.Model.pack (op x.toModel.unpack y.toModel.unpack))
    (h : Canonical x.significand x.binaryExponent → Canonical y.significand y.binaryExponent →
      RoundsTo (op (build x.sign x.significand x.binaryExponent)
        (build y.sign y.significand y.binaryExponent)) V) :
    z.isNaN = false ∧ z.extValue = roundExt V := by
  rw [toModel_unpack_of_isFinite hx, toModel_unpack_of_isFinite hy] at hz
  exact extValue_of_roundsTo (h (canonical_of_isFinite hx) (canonical_of_isFinite hy)) hz

/-- The sum of two finite floats is no NaN, and its extended value is the
exact sum rounded. -/
theorem extValue_add {x y : Float} (hx : x.isFinite = true) (hy : y.isFinite = true) :
    (x + y).isNaN = false ∧ (x + y).extValue = roundExt ((x.scaled + y.scaled) * 2 ^ 1074) :=
  extValue_of_op (UnpackedFloat.add Format.binary64) hx hy rfl roundsTo_add

/-- The difference of two finite floats is no NaN, and its extended value is
the exact difference rounded. -/
theorem extValue_sub {x y : Float} (hx : x.isFinite = true) (hy : y.isFinite = true) :
    (x - y).isNaN = false ∧ (x - y).extValue = roundExt ((x.scaled - y.scaled) * 2 ^ 1074) :=
  extValue_of_op (UnpackedFloat.sub Format.binary64) hx hy rfl roundsTo_sub

/-- The product of two finite floats is no NaN, and its extended value is the
exact product rounded. -/
theorem extValue_mul {x y : Float} (hx : x.isFinite = true) (hy : y.isFinite = true) :
    (x * y).isNaN = false ∧ (x * y).extValue = roundExt (x.scaled * y.scaled) :=
  extValue_of_op (UnpackedFloat.mul Format.binary64) hx hy rfl roundsTo_mul

/-! ## Monotone operations -/

theorem scaled_zero : (0.0 : Float).scaled = 0 := rfl

theorem roundExt_zero : roundExt 0 = ((0 : Int) : WithTop Int) := by
  unfold roundExt extOf
  rw [Int.natAbs_zero, roundUnits_zero, if_pos (Nat.two_pow_pos _), Nat.cast_zero, if_neg (by omega),
    apply_zero]

/-- Zero is the rounding of zero. -/
theorem extValue_zero : (0.0 : Float).isNaN = false ∧ (0.0 : Float).extValue = roundExt 0 := by
  rw [roundExt_zero, extValue_of_isFinite rfl, scaled_zero]
  exact ⟨rfl, rfl⟩

/-- Two floats that round exact values in order are in order. -/
theorem le_of_roundExt {z z' : Float} {V V' : Int} (h : z.isNaN = false ∧ z.extValue = roundExt V)
    (h' : z'.isNaN = false ∧ z'.extValue = roundExt V') (hV : V ≤ V') : z ≤ z' := by
  rw [le_iff_extValue h.1 h'.1, h.2, h'.2]
  exact roundExt_mono hV

/-- Addition keeps the order of both operands, overflow included. -/
theorem add_le_add {x x' y y' : Float} (hx : x.isFinite = true) (hx' : x'.isFinite = true)
    (hy : y.isFinite = true) (hy' : y'.isFinite = true) (h₁ : x ≤ x') (h₂ : y ≤ y') :
    x + y ≤ x' + y' := by
  rw [le_iff_scaled hx hx'] at h₁
  rw [le_iff_scaled hy hy'] at h₂
  exact le_of_roundExt (extValue_add hx hy) (extValue_add hx' hy')
    (Int.mul_le_mul_of_nonneg_right (by omega) (by positivity))

/-- Subtracting a larger float gives a smaller result. -/
theorem sub_le_sub_left {a y y' : Float} (ha : a.isFinite = true) (hy : y.isFinite = true)
    (hy' : y'.isFinite = true) (h : y' ≤ y) : a - y ≤ a - y' := by
  rw [le_iff_scaled hy' hy] at h
  exact le_of_roundExt (extValue_sub ha hy) (extValue_sub ha hy')
    (Int.mul_le_mul_of_nonneg_right (by omega) (by positivity))

/-- Multiplying by a factor that is not negative keeps the order. -/
theorem mul_le_mul_of_nonneg_left {w v v' : Float} (hw : w.isFinite = true)
    (hv : v.isFinite = true) (hv' : v'.isFinite = true) (h0 : 0.0 ≤ w) (h : v ≤ v') :
    w * v ≤ w * v' := by
  rw [le_iff_scaled rfl hw, scaled_zero] at h0
  rw [le_iff_scaled hv hv'] at h
  exact le_of_roundExt (extValue_mul hw hv) (extValue_mul hw hv') (Int.mul_le_mul_of_nonneg_left h h0)

theorem mul_le_mul_of_nonneg_right {l l' c : Float} (hl : l.isFinite = true)
    (hl' : l'.isFinite = true) (hc : c.isFinite = true) (h0 : 0.0 ≤ c) (h : l ≤ l') :
    l * c ≤ l' * c := by
  rw [le_iff_scaled rfl hc, scaled_zero] at h0
  rw [le_iff_scaled hl hl'] at h
  exact le_of_roundExt (extValue_mul hl hc) (extValue_mul hl' hc) (Int.mul_le_mul_of_nonneg_right h h0)

/-- A sum of two numbers that are not negative is not negative. -/
theorem zero_le_add {a b : Float} (ha : a.isFinite = true) (hb : b.isFinite = true)
    (h₁ : 0.0 ≤ a) (h₂ : 0.0 ≤ b) : 0.0 ≤ a + b := by
  rw [le_iff_scaled rfl ha, scaled_zero] at h₁
  rw [le_iff_scaled rfl hb, scaled_zero] at h₂
  exact le_of_roundExt extValue_zero (extValue_add ha hb) (by positivity)

/-- A product of two numbers that are not negative is not negative. -/
theorem zero_le_mul {a b : Float} (ha : a.isFinite = true) (hb : b.isFinite = true)
    (h₁ : 0.0 ≤ a) (h₂ : 0.0 ≤ b) : 0.0 ≤ a * b := by
  rw [le_iff_scaled rfl ha, scaled_zero] at h₁
  rw [le_iff_scaled rfl hb, scaled_zero] at h₂
  exact le_of_roundExt extValue_zero (extValue_mul ha hb) (Int.mul_nonneg h₁ h₂)

/-! ## A finite sum has finite operands -/

/-- Only finite operands leave the model's sum finite: two infinities give
an infinity or a NaN. -/
theorem isFinite_of_add {u v : UnpackedFloat}
    (h : (UnpackedFloat.add Format.binary64 u v).isFinite = true) :
    u.isFinite = true ∧ v.isFinite = true := by
  cases u <;> cases v <;> simp only [UnpackedFloat.add] at h <;> (try split_ifs at h) <;>
    simp_all [UnpackedFloat.isFinite]

theorem isFinite_of_pack {u : UnpackedFloat} (h : (Float.Model.pack u).unpack.isFinite = true) :
    u.isFinite = true := by
  cases u with
  | notANumber => exact absurd h (by decide)
  | infinity s => cases s <;> exact absurd h (by decide)
  | zero s => rfl
  | finite s m e hm => rfl

/-- An infinity or a NaN among the operands makes the sum an infinity or a
NaN. -/
theorem isFinite_of_isFinite_add {x y : Float} (h : (x + y).isFinite = true) :
    x.isFinite = true ∧ y.isFinite = true :=
  isFinite_of_add (isFinite_of_pack (u := UnpackedFloat.add Format.binary64 x.toModel.unpack
    y.toModel.unpack) h)

/-- Only finite operands leave the model's product finite: an infinity times
anything but a NaN is an infinity, and times a zero a NaN. -/
theorem isFinite_of_mul {u v : UnpackedFloat}
    (h : (UnpackedFloat.mul Format.binary64 u v).isFinite = true) :
    u.isFinite = true ∧ v.isFinite = true := by
  cases u <;> cases v <;> simp_all [UnpackedFloat.mul, UnpackedFloat.isFinite]

theorem isFinite_of_isFinite_mul {x y : Float} (h : (x * y).isFinite = true) :
    x.isFinite = true ∧ y.isFinite = true :=
  isFinite_of_mul (isFinite_of_pack (u := UnpackedFloat.mul Format.binary64 x.toModel.unpack
    y.toModel.unpack) h)

/-- A finite sum folded from the left had a finite start. -/
theorem isFinite_of_foldl_add {ts : List Float} {a : Float}
    (h : (ts.foldl (· + ·) a).isFinite = true) : a.isFinite = true := by
  induction ts generalizing a with
  | nil => exact h
  | cons t ts ih => exact (isFinite_of_isFinite_add (ih h)).1

/-- Sums folded from the left keep the order of their terms, as long as the
larger sum is finite and no term is negative.  The larger sum being finite
makes each of its partial sums and terms finite, and the smaller ones lie
between zero and them. -/
theorem foldl_add_mono {ts ts' : List Float}
    (h : List.Forall₂ (fun t t' => t'.isFinite = true → 0.0 ≤ t ∧ t ≤ t') ts ts')
    {a a' : Float} (ha : 0.0 ≤ a) (haa : a ≤ a') (hfin : (ts'.foldl (· + ·) a').isFinite = true) :
    0.0 ≤ ts.foldl (· + ·) a ∧ ts.foldl (· + ·) a ≤ ts'.foldl (· + ·) a' := by
  induction h generalizing a a' with
  | nil => exact ⟨ha, haa⟩
  | @cons t t' ts ts' hterm _ ih =>
    obtain ⟨ha'f, ht'f⟩ := isFinite_of_isFinite_add (isFinite_of_foldl_add hfin)
    obtain ⟨ht0, htt⟩ := hterm ht'f
    have haf := isFinite_of_le_of_le rfl ha'f ha haa
    have htf := isFinite_of_le_of_le rfl ht'f ht0 htt
    exact ih (zero_le_add haf htf ha ht0) (add_le_add haf ha'f htf ht'f haa htt) hfin

end Float
