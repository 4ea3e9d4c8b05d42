import Mathlib
import CareerInsight.Proofs.Binary64.Integer
import CareerInsight.Insight.Invariant

/-!
# Every repaired value meets its constraint

Repair reads one payload value against one field constraint and writes a
value of its own.  This file shows that the value it writes always passes
the invariant check of that constraint, whatever the payload held, as long
as the constraint itself is well formed (`FieldSpec.WellFormed`: ordered
finite bounds around the default, safe-integer bounds for integers, an
allowed default label, a fallback text and shape defaults that are usable).

* `Keyed.lookup_put` and `Keyed.lookup_ofList`: writing an entry changes the
  lookup of its key only, and a map built from a list answers a key with its
  last entry there.  No ordering of the keys is needed for either.
* `FieldSpec.Holds` is the invariant of one field, with numbers compared as
  exact values, and `FieldSpec.checkValue_of_holds` says the check accepts it.
* `FieldSpec.repairField_holds`: the value a constraint writes holds, field
  kind by field kind (`clampNumeric_within`, `chooseLabel_mem`,
  `keepText_not_blank`, `le_enforceFloor`, `conforms_keepNested`).
-/

/-! ## Values between bounds, trimmed text -/

/-- A finite float whose value lies between the values of `lo` and `hi`. -/
def Float.Within (x lo hi : Float) : Prop :=
  x.isFinite = true ∧ lo.scaled ≤ x.scaled ∧ x.scaled ≤ hi.scaled

/-- A float between finite bounds lies within them. -/
theorem Float.Within.of_le {x lo hi : Float} (hlo : lo.isFinite = true) (hhi : hi.isFinite = true)
    (h₁ : lo ≤ x) (h₂ : x ≤ hi) : x.Within lo hi := by
  have hx := Float.isFinite_of_le_of_le hlo hhi h₁ h₂
  exact ⟨hx, (Float.le_iff_scaled hlo hx).1 h₁, (Float.le_iff_scaled hx hhi).1 h₂⟩

/-- Trimming keeps a prefix of what is left after dropping the leading
blanks. -/
theorem List.trimUnicode_prefix (cs : List Char) :
    cs.trimUnicode <+: cs.dropWhile Char.isUnicodeSpace := by
  refine ⟨((cs.dropWhile Char.isUnicodeSpace).reverse.takeWhile Char.isUnicodeSpace).reverse, ?_⟩
  rw [List.trimUnicode, ← List.reverse_append, List.takeWhile_append_dropWhile,
    List.reverse_reverse]

/-- A trimmed text is a part of the text. -/
theorem List.trimUnicode_infix (cs : List Char) : cs.trimUnicode <:+: cs :=
  (List.trimUnicode_prefix cs).isInfix.trans (List.dropWhile_suffix _).isInfix

/-- A trimmed text that is not empty starts with a character that is not
`White_Space`. -/
theorem List.trimUnicode_head (cs : List Char) (h : cs.trimUnicode ≠ []) :
    (cs.trimUnicode.head h).isUnicodeSpace = false := by
  have hpre := List.trimUnicode_prefix cs
  have hne : cs.dropWhile Char.isUnicodeSpace ≠ [] := fun h0 => h (List.prefix_nil.1 (h0 ▸ hpre))
  rw [hpre.head h]
  exact List.head_dropWhile_not _ hne

/-- The first `n > 0` characters of a trimmed text that is not empty are not blank. -/
theorem String.isBlank_takeChars_trimUnicode (s : String) {n : Nat} (hn : 0 < n)
    (h : s.trimUnicode.isEmpty = false) : (s.trimUnicode.takeChars n).isBlank = false := by
  have hne : s.toList.trimUnicode ≠ [] := by
    intro h0
    simp [String.trimUnicode, h0] at h
  obtain ⟨c, rest, hcs⟩ := List.exists_cons_of_ne_nil hne
  have hc := List.trimUnicode_head s.toList hne
  simp only [hcs, List.head_cons] at hc
  simp [String.isBlank, String.takeChars, String.trimUnicode, String.toList_ofList, hcs,
    List.take_cons hn, hc]

namespace CareerInsight

/-! ## Entries in key order -/

namespace Keyed

variable {α : Type}

@[simp] theorem lookup_put_self (es : List (String × α)) (k : String) (v : α) :
    lookup (put es k v) k = some v := by
  induction es with
  | nil => simp [put, lookup]
  | cons e rest ih =>
    obtain ⟨k₀, v₀⟩ := e
    by_cases heq : k = k₀
    · simp [put, lookup, heq]
    · by_cases hlt : k < k₀ <;> simp [put, lookup, heq, hlt, ih, Ne.symm heq]

theorem lookup_put_of_ne (es : List (String × α)) {k k' : String} (v : α) (hne : k ≠ k') :
    lookup (put es k v) k' = lookup es k' := by
  induction es with
  | nil => simp [put, lookup, hne]
  | cons e rest ih =>
    obtain ⟨k₀, v₀⟩ := e
    by_cases heq : k = k₀
    · subst heq
      simp [put, lookup, hne]
    · by_cases hlt : k < k₀ <;> simp [put, lookup, heq, hlt, hne, ih]

/-- Writing an entry changes the lookup of its own key only. -/
theorem lookup_put (es : List (String × α)) (k k' : String) (v : α) :
    lookup (put es k v) k' = if k = k' then some v else lookup es k' := by
  by_cases h : k = k'
  · subst h
    simp
  · simp [h, lookup_put_of_ne es v h]

/-- Looking a key up agrees with the standard library's first-match lookup. -/
theorem lookup_eq_list_lookup (es : List (String × α)) (k : String) :
    lookup es k = List.lookup k es := by
  induction es with
  | nil => rfl
  | cons e rest ih =>
    obtain ⟨k₀, v₀⟩ := e
    by_cases h : k₀ = k
    · subst h
      simp [lookup, List.lookup]
    · have hb : (k == k₀) = false := beq_false_of_ne (Ne.symm h)
      simp [lookup, List.lookup, h, hb, ih]

/-- A map built from a list answers each key with its last entry there. -/
theorem lookup_ofList (l : List (String × α)) (k : String) :
    lookup (ofList l) k = (l.reverse.find? (·.1 == k)).map (·.2) := by
  unfold ofList
  suffices h : ∀ acc, lookup (l.foldl (fun acc (e : String × α) => put acc e.1 e.2) acc) k =
      ((l.reverse.find? (·.1 == k)).map (·.2)).or (lookup acc k) by
    simpa [lookup] using h []
  induction l with
  | nil => simp
  | cons e rest ih =>
    intro acc
    rw [List.foldl_cons, ih, List.reverse_cons, List.find?_append, lookup_put]
    by_cases hk : e.1 = k <;> cases rest.reverse.find? (·.1 == k) <;> simp [hk]

/-- A key whose entries in a list all carry one value maps to it. -/
theorem lookup_ofList_eq {l : List (String × α)} {k : String} {v : α} (hmem : ∃ w, (k, w) ∈ l)
    (hall : ∀ w, (k, w) ∈ l → w = v) : lookup (ofList l) k = some v := by
  rw [lookup_ofList]
  obtain ⟨w, hw⟩ := hmem
  cases hf : l.reverse.find? (·.1 == k) with
  | none =>
    have := List.find?_eq_none.1 hf (k, w) (List.mem_reverse.2 hw)
    simp at this
  | some p =>
    have hp := List.mem_reverse.1 (List.mem_of_find?_eq_some hf)
    have hk : p.1 = k := by simpa using List.find?_some hf
    obtain ⟨p₁, p₂⟩ := p
    simp only at hk
    subst hk
    simp [hall p₂ hp]

end Keyed

namespace Record

@[simp] theorem get?_set (r : Record) (f g : String) (v : FieldValue) :
    (r.set f v).get? g = if f = g then some v else r.get? g :=
  Keyed.lookup_put r.fields f g v

@[simp] theorem domain_set (r : Record) (f : String) (v : FieldValue) :
    (r.set f v).domain = r.domain := rfl

end Record

/-! ## Well-formed constraints -/

/-- A default of a nested key that conforms to its own shape: a finite
number, or a text that is not blank. -/
def StaticValue.Usable : StaticValue → Prop
  | .number x => x.isFinite = true
  | .text s => s.isBlank = false

instance : DecidablePred StaticValue.Usable := fun v => by
  cases v <;> dsimp only [StaticValue.Usable] <;> infer_instance

/-- A value that a numeric field of `kind` may hold, the bounds given as
exact values: a finite float, or an integer of magnitude at most `2 ^ 53`,
lying in `[lo, hi]`. -/
def FieldValue.FitsNumeric (kind : NumericKind) (lo hi : Int) : FieldValue → Prop
  | .number x => kind = .float ∧ x.isFinite = true ∧ lo ≤ x.scaled ∧ x.scaled ≤ hi
  | .integer i => kind = .integer ∧ i.natAbs ≤ 2 ^ 53 ∧ lo ≤ i * 2 ^ 1074 ∧ i * 2 ^ 1074 ≤ hi
  | _ => False

/-- A value that fits a numeric field reads as a finite float within the bounds. -/
theorem FieldValue.FitsNumeric.asFloat {v : FieldValue} {kind : NumericKind} {lo hi : Int}
    (h : v.FitsNumeric kind lo hi) :
    ∃ y, v.asFloat? = some y ∧ y.isFinite = true ∧ lo ≤ y.scaled ∧ y.scaled ≤ hi := by
  cases v with
  | number x => exact ⟨x, rfl, h.2⟩
  | integer i =>
    obtain ⟨-, hi, h₁, h₂⟩ := h
    obtain ⟨hf, hs⟩ := Float.ofInt_spec hi
    exact ⟨Float.ofInt i, rfl, hf, hs ▸ h₁, hs ▸ h₂⟩
  | _ => cases h

namespace FieldSpec

/-- What a field constraint must declare for its repairs to meet it: finite
ordered bounds with the default between them, integer bounds and default
that are safe integers, a default label among the allowed ones, a fallback
text that is not blank, a floor that is a safe integer, and a nested shape
with distinct keys and usable defaults. -/
def WellFormed : FieldSpec → Prop
  | numeric _ lo hi default kind =>
    lo.isFinite = true ∧ hi.isFinite = true ∧ lo ≤ default ∧ default ≤ hi ∧
      (kind = .integer → lo.IsSafeInteger ∧ hi.IsSafeInteger ∧ default.IsSafeInteger)
  | choice _ allowed default => default ∈ allowed
  | text _ fallback => fallback.isBlank = false
  | textList .. => True
  | cohortFloor _ k => k.natAbs ≤ 2 ^ 53
  | nested _ shape => (shape.map (·.1)).Nodup ∧ ∀ entry ∈ shape, entry.2.Usable
  | ordering _ => True

instance : DecidablePred WellFormed := fun spec => by
  cases spec <;> dsimp only [WellFormed] <;> infer_instance

/-- The value of a field meets the constraint that owns it, numbers compared
as exact values: a number within the bounds, an allowed label, a text that
is not blank, a list within its length, an integer at or above the floor, an
object that conforms to its shape. -/
def Holds : FieldSpec → FieldValue → Prop
  | numeric _ lo hi _ kind, v => v.FitsNumeric kind lo.scaled hi.scaled
  | choice _ allowed _, .label l => l ∈ allowed
  | text .., .text t => t.isBlank = false
  | textList _ maxItems, .list items => items.length ≤ maxItems
  | cohortFloor _ k, .integer n => k ≤ n
  | nested _ shape, .nested fields => Payload.conforms fields shape = true
  | _, _ => False

/-- A value that meets a well-formed constraint passes the check of it. -/
theorem checkValue_of_holds {spec : FieldSpec} {v : FieldValue} (field : String)
    (hwf : spec.WellFormed) (h : spec.Holds v) : Record.checkValue spec field v = .ok () := by
  cases spec with
  | numeric f lo hi d kind =>
    obtain ⟨hlo, hhi, -⟩ := hwf
    cases v <;> simp only [Holds, FieldValue.FitsNumeric] at h
    · obtain ⟨rfl, hx, h₁, h₂⟩ := h
      simp [Record.checkValue, (Float.le_iff_scaled hlo hx).2 h₁, (Float.le_iff_scaled hx hhi).2 h₂]
      rfl
    · obtain ⟨rfl, hi, h₁, h₂⟩ := h
      obtain ⟨hf, hs⟩ := Float.ofInt_spec hi
      simp [Record.checkValue, (Float.le_iff_scaled hlo hf).2 (hs ▸ h₁),
        (Float.le_iff_scaled hf hhi).2 (hs ▸ h₂)]
      rfl
  | choice f allowed d => cases v <;> simp_all [Holds, Record.checkValue]
  | text f fb => cases v <;> simp_all [Holds, Record.checkValue]
  | textList f maxItems => cases v <;> simp_all [Holds, Record.checkValue]
  | cohortFloor f k => cases v <;> simp_all [Holds, Record.checkValue]
  | nested f shape => cases v <;> simp_all [Holds, Record.checkValue]
  | ordering fs => simp [Holds] at h

end FieldSpec

/-! ## Each repair meets its constraint -/

namespace Payload

variable {input : Option Json}

/-- Clamping with well-formed bounds gives a finite value within them. -/
theorem clampFloat_within {n lo hi d : Float} (hlo : lo.isFinite = true) (hhi : hi.isFinite = true)
    (hd₁ : lo ≤ d) (hd₂ : d ≤ hi) : (clampFloat n lo hi d).Within lo hi := by
  have hd := Float.Within.of_le hlo hhi hd₁ hd₂
  unfold clampFloat
  split
  · next hn =>
    obtain ⟨-, h₁, h₂⟩ := hd
    obtain ⟨hmf, hms⟩ := Float.minNum_spec hn hhi
    obtain ⟨hf, hs⟩ := Float.maxNum_spec hlo hmf
    refine ⟨hf, ?_, ?_⟩ <;> rw [hs, hms] <;> omega
  · exact hd

theorem clampNumeric_within {lo hi d : Float} (hlo : lo.isFinite = true)
    (hhi : hi.isFinite = true) (hd₁ : lo ≤ d) (hd₂ : d ≤ hi) :
    (clampNumeric input lo hi d).Within lo hi := by
  unfold clampNumeric
  split
  · exact clampFloat_within hlo hhi hd₁ hd₂
  · exact Float.Within.of_le hlo hhi hd₁ hd₂

theorem chooseLabel_mem {allowed : List String} {d : String} (hd : d ∈ allowed) :
    chooseLabel input allowed d ∈ allowed := by
  unfold chooseLabel
  split
  · split <;> simp_all
  · exact hd

/- Labels are compared with their case. -/
example : chooseLabel (some (.string "High")) ["low", "moderate", "high", "very_high"] "moderate" =
    "moderate" := by
  decide +kernel

theorem keepText_not_blank {fallback : String} (hfb : fallback.isBlank = false) :
    (keepText input fallback).isBlank = false := by
  unfold keepText
  split
  · dsimp only
    split
    · exact hfb
    · next h => exact String.isBlank_takeChars_trimUnicode _ (by decide) (Bool.eq_false_iff.2 h)
  · exact hfb

example : keepText (some (.string "  Staff Engineer ")) "x" = "Staff Engineer" := by
  decide +kernel

theorem length_keepTextList_le (maxItems : Nat) : (keepTextList input maxItems).length ≤ maxItems :=
  List.length_take_le _ _

/-- A repaired group size never falls below a floor that is a safe integer. -/
theorem le_enforceFloor {k : Int} (hk : k.natAbs ≤ 2 ^ 53) : k ≤ enforceFloor input k := by
  unfold enforceFloor
  split
  · split
    · rename_i h
      simp only [Bool.and_eq_true, decide_eq_true_eq] at h
      exact Float.le_roundHalfAway_toIntSat h.1 hk h.2
    · exact le_refl k
  · exact le_refl k

theorem fitsShape_toJson {expected : StaticValue} (h : expected.Usable) :
    fitsShape (some expected.toJson) expected = true := by
  cases expected with
  | number x =>
    simp only [StaticValue.Usable] at h
    simp [StaticValue.toJson, Json.ofFloat, h, fitsShape, JsonNumber.toFloat]
  | text t => simpa [StaticValue.toJson, fitsShape, StaticValue.Usable] using h

/-- With distinct keys, the default object answers each key with its default. -/
theorem lookup_shapeDefault {shape : NestedShape} (hkeys : (shape.map (·.1)).Nodup)
    {key : String} {expected : StaticValue} (hmem : (key, expected) ∈ shape) :
    (shapeDefault shape).lookup key = some expected.toJson := by
  unfold shapeDefault Json.Fields.lookup Json.Fields.ofList
  apply Keyed.lookup_ofList_eq
  · exact ⟨_, List.mem_map.2 ⟨(key, expected), hmem, rfl⟩⟩
  · intro w hw
    obtain ⟨⟨k', e'⟩, hmem', he⟩ := List.mem_map.1 hw
    simp only [Prod.mk.injEq] at he
    obtain ⟨rfl, rfl⟩ := he
    have := List.inj_on_of_nodup_map hkeys hmem' hmem rfl
    simp_all

/-- The kept keys of a conforming object hold the values the object gave them. -/
theorem lookup_keptKeys {fields : Json.Fields} {shape : NestedShape} {key : String} {w : Json}
    {expected : StaticValue} (hmem : (key, expected) ∈ shape) (hw : fields.lookup key = some w) :
    (Json.Fields.ofList (shape.filterMap fun (key, _) => (List.lookup key fields).map (key, ·))).lookup
      key = some w := by
  rw [Json.Fields.lookup, Keyed.lookup_eq_list_lookup] at hw
  unfold Json.Fields.ofList
  apply Keyed.lookup_ofList_eq
  · exact ⟨w, List.mem_filterMap.2 ⟨(key, expected), hmem, by simp [hw]⟩⟩
  · intro w' hw'
    obtain ⟨⟨k', e'⟩, -, he⟩ := List.mem_filterMap.1 hw'
    simp only [Option.map_eq_some_iff, Prod.mk.injEq] at he
    obtain ⟨v, hv, rfl, rfl⟩ := he
    exact Option.some.inj (hv.symm.trans hw)

/-- A repaired nested value conforms to its shape when the shape's keys are
distinct and its defaults usable. -/
theorem conforms_keepNested {shape : NestedShape} (hkeys : (shape.map (·.1)).Nodup)
    (husable : ∀ entry ∈ shape, entry.2.Usable) : conforms (keepNested input shape) shape = true := by
  have hdefault : conforms (shapeDefault shape) shape = true := by
    unfold conforms
    rw [List.all_eq_true]
    rintro ⟨key, expected⟩ hmem
    dsimp only
    rw [lookup_shapeDefault hkeys hmem]
    exact fitsShape_toJson (husable _ hmem)
  unfold keepNested
  split
  · split
    · next fields hc =>
      unfold conforms at hc ⊢
      rw [List.all_eq_true] at hc ⊢
      rintro ⟨key, expected⟩ hmem
      have hfit := hc _ hmem
      obtain ⟨w, hw⟩ : ∃ w, Json.Fields.lookup fields key = some w := by
        cases h : Json.Fields.lookup fields key with
        | none => simp [h, fitsShape] at hfit
        | some w => exact ⟨w, rfl⟩
      simp only at hfit ⊢
      rw [lookup_keptKeys hmem hw, ← hw]
      exact hfit
    · exact hdefault
  · exact hdefault

end Payload

namespace FieldSpec

theorem owner?_of_repairField {spec : FieldSpec} {raw : Json.Fields} {field : String}
    {v : FieldValue} {r : Option RepairKind} (h : spec.repairField raw = some (field, v, r)) :
    spec.owner? = some field := by
  cases spec <;> simp only [repairField, Option.some.injEq, Prod.mk.injEq, reduceCtorEq] at h <;>
    rw [← h.1] <;> rfl

/-- Every constraint but an ordering group writes the field it owns. -/
theorem repairField_of_owner? {spec : FieldSpec} (raw : Json.Fields) {field : String}
    (h : spec.owner? = some field) : ∃ v r, spec.repairField raw = some (field, v, r) := by
  cases spec <;> simp only [owner?, Option.some.injEq, reduceCtorEq] at h <;> subst h <;>
    exact ⟨_, _, rfl⟩

/-- The value a well-formed field constraint writes meets the constraint,
whatever the payload holds. -/
theorem repairField_holds {spec : FieldSpec} {raw : Json.Fields} {field : String} {v : FieldValue}
    {r : Option RepairKind} (hwf : spec.WellFormed) (h : spec.repairField raw = some (field, v, r)) :
    spec.Holds v := by
  cases spec with
  | numeric f lo hi d kind =>
    obtain ⟨hlo, hhi, hd₁, hd₂, hint⟩ := hwf
    simp only [repairField, Option.some.injEq, Prod.mk.injEq] at h
    obtain ⟨rfl, rfl, -⟩ := h
    have hc : (Payload.clampNumeric (raw.lookup f) lo hi d).Within lo hi :=
      Payload.clampNumeric_within hlo hhi hd₁ hd₂
    cases kind with
    | float => exact ⟨rfl, hc⟩
    | integer =>
      obtain ⟨hslo, hshi, -⟩ := hint rfl
      exact ⟨rfl, Float.roundHalfAway_toIntSat_between hc.1 hslo hshi hc.2.1 hc.2.2⟩
  | choice f allowed d =>
    simp only [repairField, Option.some.injEq, Prod.mk.injEq] at h
    obtain ⟨rfl, rfl, -⟩ := h
    exact Payload.chooseLabel_mem hwf
  | text f fallback =>
    simp only [repairField, Option.some.injEq, Prod.mk.injEq] at h
    obtain ⟨rfl, rfl, -⟩ := h
    exact Payload.keepText_not_blank hwf
  | textList f maxItems =>
    simp only [repairField, Option.some.injEq, Prod.mk.injEq] at h
    obtain ⟨rfl, rfl, -⟩ := h
    exact Payload.length_keepTextList_le maxItems
  | cohortFloor f k =>
    simp only [repairField, Option.some.injEq, Prod.mk.injEq] at h
    obtain ⟨rfl, rfl, -⟩ := h
    exact Payload.le_enforceFloor hwf
  | nested f shape =>
    simp only [repairField, Option.some.injEq, Prod.mk.injEq] at h
    obtain ⟨rfl, rfl, -⟩ := h
    exact Payload.conforms_keepNested hwf.1 hwf.2
  | ordering fs => simp [repairField] at h

end FieldSpec

end CareerInsight
