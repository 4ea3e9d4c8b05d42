import Mathlib
import CareerInsight.Proofs.Binary64.Order

/-!
# The order of binary64 numbers beyond the finite ones

`Binary64.Order` compares finite floats as their values.  The infinities sit
at the two ends of that order, so every float but NaN compares as a value in
the integers with a least and a greatest element added, `Float.extValue`.

* `compare_unpack`: two floats other than NaN compare in the model as their
  extended values; so `≤` and `==` are the order and the equality of
  extended values (`le_iff_extValue`, `beq_iff_extValue`), and `==` is
  reflexive away from NaN (`beq_self`).
* `extValue_le_of_totalKey_le`: the key of `Float.sortTotal` refines the
  order of extended values, since the infinities have the extreme keys.
* `isNaN_eq_false_of_lt`: a strict comparison that holds has no NaN
  operand, so the NaN-ignoring extrema of a number and a bound are numbers
  (`isNaN_minNum`, `isNaN_maxNum`).
-/

open Float.Model Float.Model.UnpackedFloat

namespace Float

/-- The value of a float in units of `2 ^ -1074`, with `⊥` and `⊤` for the
two infinities; meaningful for every float but NaN. -/
def extValue (x : Float) : WithBot (WithTop Int) :=
  if x.isFinite then ((x.scaled : WithTop Int) : WithBot (WithTop Int))
  else if x.signBit then ⊥ else ⊤

theorem extValue_of_isFinite {x : Float} (h : x.isFinite = true) :
    x.extValue = ((x.scaled : WithTop Int) : WithBot (WithTop Int)) := by
  simp [extValue, h]

theorem isNaN_eq_unpack (x : Float) : x.isNaN = x.toModel.unpack.isNaN := rfl

/-- A float that is neither finite nor NaN is the infinity of its sign. -/
theorem toModel_unpack_of_infinite {x : Float} (hf : x.isFinite = false) (hn : x.isNaN = false) :
    x.toModel.unpack = .infinity x.sign := by
  rcases unpack_of_not_isFinite hf with h | h
  · exact h
  · rw [isNaN_eq_unpack, h] at hn
    cases hn

theorem compare_coe_coe (a b : Int) :
    compare ((a : WithTop Int) : WithBot (WithTop Int)) (b : WithTop Int) = compare a b := by
  rcases lt_trichotomy a b with h | h | h
  · rw [compare_lt_iff_lt.2 h, compare_lt_iff_lt.2 (WithBot.coe_lt_coe.2 (WithTop.coe_lt_coe.2 h))]
  · rw [h, compare_eq_iff_eq.2 rfl, compare_eq_iff_eq.2 rfl]
  · rw [compare_gt_iff_gt.2 h, compare_gt_iff_gt.2 (WithBot.coe_lt_coe.2 (WithTop.coe_lt_coe.2 h))]

/-- The extended value of an infinity, from its sign. -/
def signExtreme : Sign → WithBot (WithTop Int)
  | .negative => ⊥
  | .positive => ⊤

theorem extValue_of_infinite {x : Float} (hf : x.isFinite = false) :
    x.extValue = signExtreme x.sign := by
  unfold extValue sign
  cases x.signBit <;> simp [hf, signExtreme]

/-- An infinity lies beyond every finite value, on the side of its sign. -/
theorem compare_infinity_build (s t : Sign) (m : Nat) (e : Int) (v : Int) :
    (UnpackedFloat.infinity s).compare (build t m e) =
      some (compare (signExtreme s) ((v : WithTop Int) : WithBot (WithTop Int))) := by
  have hbot : compare (⊥ : WithBot (WithTop Int)) (v : WithTop Int) = .lt :=
    compare_lt_iff_lt.2 (WithBot.bot_lt_coe _)
  have htop : compare (⊤ : WithBot (WithTop Int)) (v : WithTop Int) = .gt :=
    compare_gt_iff_gt.2 (WithBot.coe_lt_coe.2 (WithTop.coe_lt_top v))
  unfold build
  cases s <;> cases t <;> split <;> simp [UnpackedFloat.compare, signExtreme, hbot, htop]

theorem compare_build_infinity (s t : Sign) (m : Nat) (e : Int) (v : Int) :
    (build t m e).compare (UnpackedFloat.infinity s) =
      some (compare ((v : WithTop Int) : WithBot (WithTop Int)) (signExtreme s)) := by
  rw [unpacked_compare_swap, compare_infinity_build s t m e v, Option.map_some,
    ← Std.OrientedCmp.eq_swap]

theorem compare_infinity_infinity (s t : Sign) :
    (UnpackedFloat.infinity s).compare (.infinity t) =
      some (compare (signExtreme s) (signExtreme t)) := by
  cases s <;> cases t <;> rfl

/-- Two floats other than NaN compare in the model as their extended values. -/
theorem compare_unpack {x y : Float} (hx : x.isNaN = false) (hy : y.isNaN = false) :
    x.toModel.unpack.compare y.toModel.unpack = some (compare x.extValue y.extValue) := by
  cases hfx : x.isFinite <;> cases hfy : y.isFinite
  · rw [toModel_unpack_of_infinite hfx hx, toModel_unpack_of_infinite hfy hy,
      extValue_of_infinite hfx, extValue_of_infinite hfy]
    exact compare_infinity_infinity _ _
  · rw [toModel_unpack_of_infinite hfx hx, toModel_unpack_of_isFinite hfy,
      extValue_of_infinite hfx, extValue_of_isFinite hfy]
    exact compare_infinity_build _ _ _ _ _
  · rw [toModel_unpack_of_isFinite hfx, toModel_unpack_of_infinite hfy hy,
      extValue_of_isFinite hfx, extValue_of_infinite hfy]
    exact compare_build_infinity _ _ _ _ _
  · rw [compare_of_isFinite hfx hfy, extValue_of_isFinite hfx, extValue_of_isFinite hfy,
      compare_coe_coe]

/-- Away from NaN, `≤` is the order of extended values. -/
theorem le_iff_extValue {x y : Float} (hx : x.isNaN = false) (hy : y.isNaN = false) :
    x ≤ y ↔ x.extValue ≤ y.extValue := by
  rw [le_iff_unpack, UnpackedFloat.le, compare_unpack hx hy, ← compare_le_iff_le]
  cases compare x.extValue y.extValue <;> decide

/-- Away from NaN, `==` is the equality of extended values. -/
theorem beq_iff_extValue {x y : Float} (hx : x.isNaN = false) (hy : y.isNaN = false) :
    (x == y) = true ↔ x.extValue = y.extValue := by
  show (x.toModel.unpack.compare y.toModel.unpack == some .eq) = true ↔ _
  rw [compare_unpack hx hy, ← compare_eq_iff_eq]
  simp

theorem beq_self {x : Float} (hx : x.isNaN = false) : (x == x) = true :=
  (beq_iff_extValue hx hx).2 rfl

/-- A strict comparison that holds has no NaN operand: the model compares
nothing with NaN. -/
theorem isNaN_eq_false_of_lt {x y : Float} (h : x < y) : x.isNaN = false ∧ y.isNaN = false := by
  have hnone : ∀ u : UnpackedFloat, u.compare .notANumber = none := fun u => by cases u <;> rfl
  rw [lt_iff_unpack, UnpackedFloat.lt] at h
  rw [isNaN_eq_unpack, isNaN_eq_unpack]
  constructor
  · cases hu : x.toModel.unpack <;> simp_all [UnpackedFloat.isNaN, UnpackedFloat.compare]
  · cases hu : y.toModel.unpack <;> simp_all [UnpackedFloat.isNaN]

/-- Away from NaN, `<` is the strict order of extended values. -/
theorem lt_iff_extValue {x y : Float} (hx : x.isNaN = false) (hy : y.isNaN = false) :
    x < y ↔ x.extValue < y.extValue := by
  rw [lt_iff_unpack, UnpackedFloat.lt, compare_unpack hx hy, ← compare_lt_iff_lt]
  cases compare x.extValue y.extValue <;> decide

/-- A comparison `≤` that holds has no NaN operand. -/
theorem isNaN_eq_false_of_le {x y : Float} (h : x ≤ y) : x.isNaN = false ∧ y.isNaN = false := by
  have hnone : ∀ u : UnpackedFloat, u.compare .notANumber = none := fun u => by cases u <;> rfl
  rw [le_iff_unpack, UnpackedFloat.le] at h
  rw [isNaN_eq_unpack, isNaN_eq_unpack]
  constructor
  · cases hu : x.toModel.unpack <;> simp_all [UnpackedFloat.isNaN, UnpackedFloat.compare]
  · cases hu : y.toModel.unpack <;> simp_all [UnpackedFloat.isNaN]

theorem le_trans {x y z : Float} (h₁ : x ≤ y) (h₂ : y ≤ z) : x ≤ z := by
  obtain ⟨hx, hy⟩ := isNaN_eq_false_of_le h₁
  obtain ⟨-, hz⟩ := isNaN_eq_false_of_le h₂
  rw [le_iff_extValue hx hy] at h₁
  rw [le_iff_extValue hy hz] at h₂
  exact (le_iff_extValue hx hz).2 (h₁.trans h₂)

theorem le_refl_of_isNaN {x : Float} (hx : x.isNaN = false) : x ≤ x :=
  (le_iff_extValue hx hx).2 le_rfl

/-- Away from NaN the order is total. -/
theorem le_of_not_lt {x y : Float} (hx : x.isNaN = false) (hy : y.isNaN = false) (h : ¬ y < x) :
    x ≤ y := by
  rw [lt_iff_extValue hy hx, not_lt] at h
  exact (le_iff_extValue hx hy).2 h

theorem lt_of_lt_of_le {x y z : Float} (h₁ : x < y) (h₂ : y ≤ z) : x < z := by
  obtain ⟨hx, hy⟩ := isNaN_eq_false_of_lt h₁
  obtain ⟨-, hz⟩ := isNaN_eq_false_of_le h₂
  rw [lt_iff_extValue hx hy] at h₁
  rw [le_iff_extValue hy hz] at h₂
  exact (lt_iff_extValue hx hz).2 (h₁.trans_le h₂)

theorem lt_of_le_of_lt {x y z : Float} (h₁ : x ≤ y) (h₂ : y < z) : x < z := by
  obtain ⟨hx, hy⟩ := isNaN_eq_false_of_le h₁
  obtain ⟨-, hz⟩ := isNaN_eq_false_of_lt h₂
  rw [le_iff_extValue hx hy] at h₁
  rw [lt_iff_extValue hy hz] at h₂
  exact (lt_iff_extValue hx hz).2 (h₁.trans_lt h₂)

theorem lt_of_not_le {x y : Float} (hx : x.isNaN = false) (hy : y.isNaN = false) (h : ¬ y ≤ x) :
    x < y := by
  rw [le_iff_extValue hy hx, not_le] at h
  exact (lt_iff_extValue hx hy).2 h

/-- The NaN-ignoring minimum of a number and any bound is a number. -/
theorem isNaN_minNum {a : Float} (ha : a.isNaN = false) (b : Float) : (minNum a b).isNaN = false := by
  unfold minNum
  split
  · exact ha
  · next hb =>
    split
    · exact ha
    · exact Bool.eq_false_iff.2 hb

/-- The NaN-ignoring maximum of any bound and a number is a number: the
bound is kept only when it compares above the number. -/
theorem isNaN_maxNum (a : Float) {b : Float} (hb : b.isNaN = false) : (maxNum a b).isNaN = false := by
  unfold maxNum
  simp only [hb, Bool.false_eq_true, ↓reduceIte]
  split
  · next hab => exact (isNaN_eq_false_of_lt hab).2
  · exact hb

/-! ## The total-order key at the ends -/

/-- The fields of a float that is neither finite nor NaN: the top exponent
and an empty fraction. -/
theorem fields_of_infinite {x : Float} (hf : x.isFinite = false) (hn : x.isNaN = false) :
    x.exponentField = 2047 ∧ x.fractionField = 0 := by
  have he : x.exponentField = 2047 := by
    by_contra hne
    rw [(isFinite_iff x).2 hne] at hf
    cases hf
  refine ⟨he, ?_⟩
  by_contra hne
  rw [(isNaN_iff x).2 ⟨he, hne⟩] at hn
  cases hn

/-- A float whose magnitude bits reach those of the infinities is an
infinity or NaN. -/
theorem not_isFinite_of_magnitudeBits {x : Float} (h : 2047 * 2 ^ 52 ≤ x.magnitudeBits) :
    x.isFinite = false := by
  have hf := x.fractionField_lt
  have he := x.exponentField_lt
  unfold magnitudeBits at h
  have h2047 : x.exponentField = 2047 := by
    by_contra hne
    have : x.exponentField * 2 ^ 52 ≤ 2046 * 2 ^ 52 := Nat.mul_le_mul_right _ (by omega)
    omega
  cases hx : x.isFinite
  · rfl
  · exact absurd h2047 ((isFinite_iff x).1 hx)

theorem magnitudeBits_lt_of_isFinite {x : Float} (h : x.isFinite = true) :
    x.magnitudeBits < 2047 * 2 ^ 52 := by
  by_contra hge
  rw [not_isFinite_of_magnitudeBits (not_lt.1 hge)] at h
  cases h

/-- The key of `Float.sortTotal` refines the order of extended values away
from NaN: a key no larger means an extended value no larger.  Where an
infinity takes part, the negative one has the least key and the positive one
the greatest. -/
theorem extValue_le_of_totalKey_le {x y : Float} (hx : x.isNaN = false) (hy : y.isNaN = false)
    (h : x.totalKey ≤ y.totalKey) : x.extValue ≤ y.extValue := by
  have bx := x.bitsNat_eq
  have byy := y.bitsNat_eq
  rw [totalKey_def, totalKey_def] at h
  cases hfx : x.isFinite <;> cases hfy : y.isFinite
  · obtain ⟨ex, fx⟩ := fields_of_infinite hfx hx
    obtain ⟨ey, fy⟩ := fields_of_infinite hfy hy
    rw [extValue_of_infinite hfx, extValue_of_infinite hfy]
    unfold sign magnitudeBits at *
    cases sx : x.signBit <;> cases sy : y.signBit <;>
      simp only [sx, sy, if_true, if_false, Bool.false_eq_true] at h bx byy ⊢ <;>
      first | omega | simp [signExtreme]
  · obtain ⟨ex, fx⟩ := fields_of_infinite hfx hx
    rw [extValue_of_infinite hfx, extValue_of_isFinite hfy]
    have hym := magnitudeBits_lt_of_isFinite hfy
    unfold sign magnitudeBits at *
    cases sx : x.signBit <;> cases sy : y.signBit <;>
      simp only [sx, sy, if_true, if_false, Bool.false_eq_true] at h bx byy hym ⊢ <;>
      first | omega | exact bot_le
  · obtain ⟨ey, fy⟩ := fields_of_infinite hfy hy
    rw [extValue_of_isFinite hfx, extValue_of_infinite hfy]
    have hxm := magnitudeBits_lt_of_isFinite hfx
    unfold sign magnitudeBits at *
    cases sx : x.signBit <;> cases sy : y.signBit <;>
      simp only [sx, sy, if_true, if_false, Bool.false_eq_true] at h bx byy hxm ⊢ <;>
      first | omega | exact le_top
  · rw [extValue_of_isFinite hfx, extValue_of_isFinite hfy]
    exact WithBot.coe_le_coe.2 (WithTop.coe_le_coe.2 (scaled_le_of_totalKey_le hfx hfy h))

end Float
