import Mathlib
import CareerInsight.Proofs.Validation.Changes
import CareerInsight.Proofs.Insight.Shape

/-!
# Validating a validated record again

A validated record can be written back as a payload, each field under its
name in its JSON form (`Record.toPayload`), and validated again.  Every
repair gives back what it made, so the second validation keeps almost
everything:

* a number keeps its value, so it is the same float to IEEE equality,
  though a zero may change its sign (`clampNumeric_toJson`);
* an integer, a group size, a label, a text list and a nested object come
  back as they were (`enforceFloor_enforceFloor`, `chooseLabel_of_mem`,
  `keepTextList_keepTextList`, `keepNested_keepNested`), with no repair;
* the groups are already in order, so the ordering phase moves nothing
  (`reorder_of_pairwise`).

Texts are the exception.  The first validation cuts a trimmed text to
`maxTextChars` characters, and the cut can end in white space, which the
second validation trims away: `"a" ++ … ++ " b"` of 2001 characters is
stored as its first 2000, ending in `" "`, and then as its first 1999.  A
fallback text is stored as it is, so a second validation trims it too, and
cuts one longer than the limit with a repair.  `validate_toPayload` states
all of it: the second record is the first with each text trimmed and cut
again (`FieldValue.reread`), numbers compared by IEEE equality
(`FieldValue.Same`), and the only repairs are those second cuts
(`FieldSpec.recut`).
-/

/-! ## Trimming twice -/

/-- A list whose first element is kept loses nothing to `dropWhile`. -/
theorem List.dropWhile_of_head {α : Type} {p : α → Bool} {l : List α} (h : l ≠ [])
    (hp : p (l.head h) = false) : l.dropWhile p = l := by
  cases l with
  | nil => exact absurd rfl h
  | cons a rest =>
    rw [List.head_cons] at hp
    simp [List.dropWhile, hp]

/-- Trimming a trimmed text changes nothing: it starts and ends with
characters that are not `White_Space`. -/
theorem List.trimUnicode_trimUnicode (cs : List Char) :
    cs.trimUnicode.trimUnicode = cs.trimUnicode := by
  by_cases hnil : cs.trimUnicode = []
  · rw [hnil]
    rfl
  have hfront : cs.trimUnicode.dropWhile Char.isUnicodeSpace = cs.trimUnicode :=
    List.dropWhile_of_head hnil (List.trimUnicode_head cs hnil)
  have hrev : cs.trimUnicode.reverse =
      (cs.dropWhile Char.isUnicodeSpace).reverse.dropWhile Char.isUnicodeSpace := by
    rw [List.trimUnicode, List.reverse_reverse]
  have hne : (cs.dropWhile Char.isUnicodeSpace).reverse.dropWhile Char.isUnicodeSpace ≠ [] :=
    fun h => hnil (by rw [List.trimUnicode, h, List.reverse_nil])
  have hback := List.dropWhile_of_head hne (List.head_dropWhile_not _ hne)
  rw [List.trimUnicode, hfront, hrev, hback]
  rfl

/-- Trimming a trimmed text changes nothing. -/
theorem String.trimUnicode_trimUnicode (s : String) : s.trimUnicode.trimUnicode = s.trimUnicode := by
  rw [String.trimUnicode, String.trimUnicode, String.toList_ofList, List.trimUnicode_trimUnicode]

namespace CareerInsight

/-! ## A record written back as a payload -/

/-- A record as a payload: each field under its name, in its JSON form. -/
def Record.toPayload (r : Record) : Json.Fields := r.fields.map fun e => (e.1, e.2.toJson)

/-- The payload of a record holds each field's JSON form. -/
theorem Record.lookup_toPayload (r : Record) (f : String) :
    r.toPayload.lookup f = (r.get? f).map FieldValue.toJson := by
  unfold toPayload get? Json.Fields.lookup
  induction r.fields with
  | nil => rfl
  | cons e rest ih =>
    obtain ⟨k, v⟩ := e
    by_cases hk : k = f
    · simp [Keyed.lookup, hk]
    · simp [Keyed.lookup, hk, ih]

namespace FieldValue

/-- Two values are the same value: floats by IEEE equality, so that `0.0`
and `-0.0` are the same, and anything else by equality. -/
def Same : FieldValue → FieldValue → Prop
  | number x, number y => (x == y) = true
  | v, w => v = w

/-- A value as a second validation reads it back: a text trimmed and cut
again, anything else as it is. -/
def reread : FieldValue → FieldValue
  | text t => text (t.trimUnicode.takeChars maxTextChars)
  | v => v

/-- A value that has an exact value is written as a JSON number of that
value. -/
theorem toJson_of_exactValue {w : FieldValue} {q : Int} (h : w.exactValue? = some q) :
    ∃ m : JsonNumber, w.toJson = .number m ∧ m.exactValue? = some q := by
  cases w with
  | number x =>
    simp only [exactValue?] at h
    split at h
    · next hx => exact ⟨.float x, by simp [toJson, Json.ofFloat, hx], by simp [JsonNumber.exactValue?, hx, h]⟩
    · cases h
  | integer i =>
    refine ⟨JsonNumber.ofInt i, rfl, ?_⟩
    simp only [exactValue?, Option.some.injEq] at h
    subst h
    unfold JsonNumber.ofInt
    split
    · next hi => rw [JsonNumber.exactValue?, Int.toNat_of_nonneg hi]
    · rfl
  | _ => cases h

end FieldValue

/-- The float an integer is read as from its JSON form. -/
theorem JsonNumber.toFloat_ofInt (i : Int) : (JsonNumber.ofInt i).toFloat = Float.ofInt i := by
  unfold JsonNumber.ofInt
  split
  · next hi =>
    show Float.ofNat i.toNat = Float.ofInt i
    conv_rhs => rw [← Int.toNat_of_nonneg hi]
    rfl
  · rfl

/-! ## Each repair gives back what it made -/

namespace Payload

variable {input : Option Json}

/-- A value that fits a numeric field, written as JSON and read again, goes
unreported, and the clamp keeps its value. -/
theorem clampNumeric_toJson {w : FieldValue} {kind : NumericKind} {lo hi d : Float}
    (hlo : lo.isFinite = true) (hhi : hi.isFinite = true) (hd₁ : lo ≤ d) (hd₂ : d ≤ hi)
    (hw : w.FitsNumeric kind lo.scaled hi.scaled) :
    numericRepair (some w.toJson) (clampNumeric (some w.toJson) lo hi d) = none ∧
      ∃ y, w.asFloat? = some y ∧ (clampNumeric (some w.toJson) lo hi d).isFinite = true ∧
        (clampNumeric (some w.toJson) lo hi d).scaled = y.scaled := by
  obtain ⟨y, hy, hwy, hex, h₁, h₂⟩ := FieldValue.FitsNumeric.exists_exactValue hw
  obtain ⟨m, hm, hmex⟩ := FieldValue.toJson_of_exactValue hex
  have hnone := numericRepair_of_exactValue hlo hhi hd₁ hd₂ hy h₁ h₂ (congrArg some hm) hmex
  obtain ⟨m', hin, -, hcf, hcs⟩ := clampNumeric_of_numericRepair hlo hhi hd₁ hd₂ hnone
  rw [hm, Option.some.injEq, Json.number.injEq] at hin
  subst hin
  exact ⟨hnone, y, hwy, hcf, hcs.trans (JsonNumber.toFloat_of_exact hy hmex).2⟩

/-- An allowed label is kept as it is. -/
theorem chooseLabel_of_mem {l d : String} {allowed : List String} (hl : l ∈ allowed) :
    chooseLabel (some (.string l)) allowed d = l := by
  simp [chooseLabel, hl]

/-- A text that is not blank is stored trimmed and cut. -/
theorem keepText_of_not_blank {t fallback : String} (ht : t.isBlank = false) :
    keepText (some (.string t)) fallback = t.trimUnicode.takeChars maxTextChars := by
  have he : ¬ t.trimUnicode.isEmpty = true := fun h => by
    rw [(String.isBlank_iff_trimUnicode t).2 h] at ht
    cases ht
  simp only [keepText, if_neg he]

/-- A text that is not blank is reported only when the cut shortens it. -/
theorem textRepair_of_not_blank {t : String} (ht : t.isBlank = false) :
    textRepair (some (.string t)) =
      if maxTextChars < t.trimUnicode.charCount then some .truncated else none := by
  simp [textRepair, ht]

/-- The texts of a list as it is kept: distinct, trimmed and not empty. -/
def Clean (ls : List String) : Prop :=
  ls.Nodup ∧ ∀ x ∈ ls, x.trimUnicode = x ∧ x.isEmpty = false

/-- Reading items keeps the kept texts clean. -/
theorem clean_foldl_keepItem (items : List Json) {kept : List String} (h : Clean kept) :
    Clean (items.foldl keepItem kept) := by
  induction items generalizing kept with
  | nil => exact h
  | cons item rest ih =>
    apply ih
    unfold keepItem
    split
    · next s =>
      dsimp only
      split
      · exact h
      · next hadd =>
        simp only [Bool.or_eq_true, List.contains_iff_mem, not_or, Bool.not_eq_true] at hadd
        refine ⟨List.nodup_append.2 ⟨h.1, List.nodup_singleton _, ?_⟩, fun x hx => ?_⟩
        · rintro a ha b hb rfl
          rw [List.mem_singleton] at hb
          exact hadd.2 (hb ▸ ha)
        · rcases List.mem_append.1 hx with hx | hx
          · exact h.2 x hx
          · rw [List.mem_singleton] at hx
            subst hx
            exact ⟨String.trimUnicode_trimUnicode s, hadd.1⟩
    · exact h

/-- Clean texts are read back one by one, each added as it is. -/
theorem foldl_keepItem_clean {ls kept : List String} (hnd : (kept ++ ls).Nodup)
    (hc : ∀ x ∈ ls, x.trimUnicode = x ∧ x.isEmpty = false) :
    (ls.map Json.string).foldl keepItem kept = kept ++ ls := by
  induction ls generalizing kept with
  | nil => simp
  | cons x rest ih =>
    obtain ⟨htrim, hne⟩ := hc x List.mem_cons_self
    have hx : x ∉ kept := fun hk => (List.nodup_append.1 hnd).2.2 x hk x List.mem_cons_self rfl
    have hstep : keepItem kept (.string x) = kept ++ [x] := by
      simp [keepItem, htrim, hne, hx]
    rw [List.map_cons, List.foldl_cons, hstep,
      ih (by simpa using hnd) fun y hy => hc y (List.mem_cons_of_mem _ hy)]
    simp

/-- The texts a list keeps are clean. -/
theorem clean_keepTextList (input : Option Json) (maxItems : Nat) :
    Clean (keepTextList input maxItems) := by
  have hu : Clean (usableItems input) := by
    unfold usableItems
    split
    · exact clean_foldl_keepItem _ ⟨List.nodup_nil, fun _ h => absurd h List.not_mem_nil⟩
    · exact ⟨List.nodup_nil, fun _ h => absurd h List.not_mem_nil⟩
  exact ⟨hu.1.sublist (List.take_sublist _ _),
    fun x hx => hu.2 x (List.mem_of_mem_take hx)⟩

/-- A kept text list, written as JSON and read again, is kept as it is. -/
theorem keepTextList_keepTextList (input : Option Json) (maxItems : Nat) :
    keepTextList (some (Json.ofStrings (keepTextList input maxItems))) maxItems =
      keepTextList input maxItems := by
  obtain ⟨hnd, hc⟩ := clean_keepTextList input maxItems
  have hread : usableItems (some (Json.ofStrings (keepTextList input maxItems))) =
      keepTextList input maxItems := foldl_keepItem_clean hnd hc
  rw [keepTextList, hread]
  exact List.take_of_length_le (length_keepTextList_le maxItems)

/-- A kept text list, written as JSON and read again, goes unreported. -/
theorem textListRepair_keepTextList (input : Option Json) (maxItems : Nat) :
    textListRepair (some (Json.ofStrings (keepTextList input maxItems))) maxItems = none := by
  refine textListRepair_eq_none_iff.2 ⟨_, rfl, ?_⟩
  rw [keepTextList_keepTextList, List.map_map]
  refine List.map_congr_left fun x hx => ?_
  simp [trimItem, ((clean_keepTextList input maxItems).2 x hx).1]

/-- A group size is a float truncated to a 64-bit integer: the floor is one
too. -/
theorem exists_enforceFloor_eq {k : Int} (hk : k.natAbs ≤ 2 ^ 53) :
    ∃ z : Float, enforceFloor input k = z.toIntSat := by
  have hkz : (Float.ofInt k).toIntSat = k := by
    obtain ⟨hf, hs⟩ := Float.ofInt_spec hk
    exact Float.toIntSat_eq hf hs (by omega)
  unfold enforceFloor
  split
  · split
    · exact ⟨_, rfl⟩
    · exact ⟨_, hkz.symm⟩
  · exact ⟨_, hkz.symm⟩

/-- A group size, written as JSON and read again, is kept as it is and goes
unreported: it reads as a whole float that saturates back to it, at or
above the floor. -/
theorem enforceFloor_enforceFloor {k : Int} (hk : k.natAbs ≤ 2 ^ 53) (input : Option Json) :
    enforceFloor (some (Json.ofInt (enforceFloor input k))) k = enforceFloor input k ∧
      floorRepair (some (Json.ofInt (enforceFloor input k))) k = none := by
  obtain ⟨z, hz⟩ : ∃ z : Float, enforceFloor input k = z.toIntSat := exists_enforceFloor_eq hk
  have hle : k ≤ enforceFloor input k := le_enforceFloor hk
  generalize enforceFloor input k = i at hz hle ⊢
  subst hz
  obtain ⟨hf, q, hq, hclamp⟩ := Float.ofInt_toIntSat z
  obtain ⟨hrf, hrs⟩ := Float.roundHalfAway_of_scaled hf hq
  obtain ⟨hkf, hks⟩ := Float.ofInt_spec hk
  have hkq : k ≤ q := by
    rw [← hclamp] at hle
    rw [Float.int64Min_def, Float.int64Max_def] at hle
    omega
  have hfloor : Float.ofInt k ≤ (Float.ofInt z.toIntSat).roundHalfAway := by
    rw [Float.le_iff_scaled hkf hrf, hks, hrs]
    exact Int.mul_le_mul_of_nonneg_right hkq (by positivity)
  have hread : (JsonNumber.ofInt z.toIntSat).toFloat = Float.ofInt z.toIntSat :=
    JsonNumber.toFloat_ofInt _
  refine ⟨?_, (floorRepair_eq_none_iff hk).2 ⟨_, rfl, hread ▸ hf, hread ▸ hfloor⟩⟩
  rw [show Json.ofInt z.toIntSat = .number (JsonNumber.ofInt z.toIntSat) from rfl,
    enforceFloor_of_le (hread ▸ hf) (hread ▸ hfloor), hread, Float.toIntSat_of_scaled hrf hrs,
    hclamp]

/-- A kept nested object has its keys in ascending order. -/
theorem ordered_keepNested (input : Option Json) (shape : NestedShape) :
    Keyed.Ordered (keepNested input shape) := by
  unfold keepNested shapeDefault Json.Fields.ofList
  split
  · split <;> exact Keyed.ordered_ofList _
  · exact Keyed.ordered_ofList _

/-- A kept nested object, written as JSON and read again, is kept as it is
and goes unreported: it conforms, and an ordered map is fixed by its keys'
values. -/
theorem keepNested_keepNested {shape : NestedShape} (hkeys : (shape.map (·.1)).Nodup)
    (husable : ∀ entry ∈ shape, entry.2.Usable) (input : Option Json) :
    keepNested (some (.object (keepNested input shape))) shape = keepNested input shape ∧
      nestedRepair (some (.object (keepNested input shape))) shape = none := by
  have hc : conforms (keepNested input shape) shape = true := conforms_keepNested hkeys husable
  refine ⟨Keyed.ext_ordered (ordered_keepNested _ _) (ordered_keepNested _ _) fun k => ?_,
    nestedRepair_eq_none_iff.2 ⟨_, rfl, hc⟩⟩
  by_cases hk : k ∈ shape.map (·.1)
  · obtain ⟨e, he, rfl⟩ := List.mem_map.1 hk
    exact lookup_keepNested hc e he
  · rw [Keyed.lookup_eq_none (fun h => hk ((mem_keys_keepNested _ shape k).1 h)),
      Keyed.lookup_eq_none (fun h => hk ((mem_keys_keepNested _ shape k).1 h))]

end Payload

/-! ## Groups already in order -/

/-- Finite floats that pass the order check ascend in value. -/
theorem pairwise_of_nonDecreasing {xs : List Float} (hfin : ∀ x ∈ xs, x.isFinite = true)
    (h : Record.nonDecreasing xs = true) : xs.Pairwise fun a b => a.scaled ≤ b.scaled := by
  induction xs with
  | nil => exact List.Pairwise.nil
  | cons a rest ih =>
    cases rest with
    | nil => exact List.pairwise_singleton _ a
    | cons b rest =>
      simp only [Record.nonDecreasing, Bool.and_eq_true, Bool.not_eq_true'] at h
      have hab : a.scaled ≤ b.scaled := by
        have hnlt : ¬ b < a := by simpa using h.1
        rw [Float.lt_iff_scaled (hfin b (by simp)) (hfin a (by simp))] at hnlt
        omega
      have hrest := ih (fun x hx => hfin x (List.mem_cons_of_mem _ hx)) h.2
      refine List.pairwise_cons.2 ⟨fun y hy => ?_, hrest⟩
      rcases List.mem_cons.1 hy with rfl | hy
      · exact hab
      · exact le_trans hab (List.rel_of_pairwise_cons hrest hy)

/-- A group of finite numbers that passes its order check ascends in value. -/
theorem Record.pairwise_of_checkSpec {r : Record} {fields : List String} {kind : NumericKind}
    {lo hi : Int} (hfit : r.GroupFits fields kind lo hi)
    (h : r.checkSpec (.ordering fields) = .ok ()) :
    (fields.map r.numberOf).Pairwise fun a b => a.scaled ≤ b.scaled := by
  rw [Record.checkSpec, Record.groupValues_eq (Record.numbers_of_groupFits hfit)] at h
  have hnd : Record.nonDecreasing (fields.map r.numberOf) = true := by
    by_contra hnd
    change (if _ then _ else _) = _ at h
    rw [if_neg hnd] at h
    cases h
  refine pairwise_of_nonDecreasing (fun x hx => ?_) hnd
  obtain ⟨g, hg, rfl⟩ := List.mem_map.1 hx
  obtain ⟨w, hw, hfw⟩ := hfit g hg
  obtain ⟨y, hy, hyf, -⟩ := hfw.asFloat
  rw [Record.numberOf_of_get? hw hy]
  exact hyf

/-- Sorting finite floats that already ascend in value moves none of them to a
float of another value: the two lists agree position by position.  On finite
floats the total order is the order of values, and two ascending permutations
of one list of values are equal. -/
theorem forall₂_beq_sortTotal {xs : List Float} (hfin : ∀ x ∈ xs, x.isFinite = true)
    (hs : xs.Pairwise fun a b => a.scaled ≤ b.scaled) :
    List.Forall₂ (fun a b => (a == b) = true) xs (Float.sortTotal xs) := by
  have hperm : (Float.sortTotal xs).Perm xs := List.mergeSort_perm _ _
  have hfin' : ∀ y ∈ Float.sortTotal xs, y.isFinite = true := fun y hy => hfin y (hperm.subset hy)
  have hsorted : (Float.sortTotal xs).Pairwise fun a b => a.scaled ≤ b.scaled :=
    (Float.pairwise_sortTotal xs).imp_of_mem fun ha hb hab =>
      Float.scaled_le_of_totalKey_le (hfin' _ ha) (hfin' _ hb) hab
  have hvals : xs.map Float.scaled = (Float.sortTotal xs).map Float.scaled :=
    List.Perm.eq_of_pairwise (fun _ _ _ _ h₁ h₂ => le_antisymm h₁ h₂) (List.pairwise_map.2 hs)
      (List.pairwise_map.2 hsorted) (hperm.symm.map _)
  have hlen : xs.length = (Float.sortTotal xs).length := by
    simpa using congrArg List.length hvals
  refine List.forall₂_iff_get.2 ⟨hlen, fun i h₁ h₂ => ?_⟩
  have hi := List.getElem_of_eq hvals (by simpa using h₁)
  simp only [List.get_eq_getElem, List.getElem_map] at hi ⊢
  exact (Float.beq_iff_scaled (hfin _ (List.getElem_mem _)) (hfin' _ (List.getElem_mem _))).2 hi

/-- A relation that holds position by position holds of each move of a
sort. -/
theorem mem_zip_zip_of_forall₂ {α β γ : Type} {R : β → γ → Prop} {l₁ : List β} {l₂ : List γ}
    (h : List.Forall₂ R l₁ l₂) (fs : List α) : ∀ m ∈ (fs.zip l₁).zip l₂, R m.1.2 m.2 := by
  induction h generalizing fs with
  | nil => simp
  | cons hab _ ih =>
    cases fs with
    | nil => simp
    | cons f fs =>
      intro m hm
      rcases List.mem_cons.1 hm with rfl | hm
      · exact hab
      · exact ih fs m hm

/-- A fold whose every step leaves the accumulator alone leaves it alone. -/
theorem List.foldl_eq_of_forall_mem {α β : Type} {step : α → β → α} {acc : α} {l : List β}
    (h : ∀ b ∈ l, step acc b = acc) : l.foldl step acc = acc := by
  induction l with
  | nil => rfl
  | cons b rest ih =>
    rw [List.foldl_cons, h b List.mem_cons_self]
    exact ih fun b' hb' => h b' (List.mem_cons_of_mem _ hb')

/-- A group whose finite numbers already ascend in value is left as it is,
with no repair: every number is equal to the one sorted into its place. -/
theorem Record.reorder_of_pairwise {r : Record} {fields : List String}
    (hnum : ∀ f ∈ fields, (r.number? f).isSome)
    (hfin : ∀ f ∈ fields, (r.numberOf f).isFinite = true)
    (hs : (fields.map r.numberOf).Pairwise fun a b => a.scaled ≤ b.scaled) :
    r.reorder fields = (r, []) := by
  have hmoves := mem_zip_zip_of_forall₂
    (forall₂_beq_sortTotal (by simpa using hfin) hs) fields
  unfold reorder
  rw [mapM_number? hnum]
  refine List.foldl_eq_of_forall_mem fun m hm => ?_
  obtain ⟨⟨f, b⟩, a⟩ := m
  simp only [hmoves _ hm, if_true]

/-- An ordering phase whose every group is left alone leaves the
validation alone. -/
theorem Validation.foldl_applyOrdering_eq_self (specs : List FieldSpec) {v : Validation}
    (h : ∀ fields, FieldSpec.ordering fields ∈ specs → v.record.reorder fields = (v.record, [])) :
    specs.foldl applyOrdering v = v := by
  refine List.foldl_eq_of_forall_mem fun s hs => ?_
  cases s with
  | ordering fields => simp [applyOrdering, h fields hs]
  | _ => rfl

/-- The repairs of the field phase: one for each constraint that reports
one, in declaration order. -/
theorem Validation.repairs_foldl_applyField (raw : Json.Fields) (specs : List FieldSpec)
    (v : Validation) :
    (specs.foldl (applyField raw) v).repairs = v.repairs ++
      specs.filterMap fun s => (s.repairField raw).bind fun x => x.2.2.map (Repair.mk x.1) := by
  induction specs generalizing v with
  | nil => simp
  | cons s rest ih =>
    rw [List.foldl_cons, ih, List.filterMap_cons]
    unfold applyField
    cases s.repairField raw with
    | none => rfl
    | some x =>
      obtain ⟨f, w, rep⟩ := x
      cases rep <;> simp

namespace FieldSpec

/-- The repair a second validation reports for the field a constraint owns:
a cut, for a text longer than the limit once trimmed.  Only a fallback can
be that long, since the first validation cut every payload text. -/
def recut (r : Record) : FieldSpec → Option Repair
  | text f _ =>
    match r.get? f with
    | some (.text t) => if maxTextChars < t.trimUnicode.charCount then some ⟨f, .truncated⟩ else none
    | _ => none
  | _ => none

end FieldSpec

/-- Numeric values that are the same value read as floats of one value. -/
theorem FieldValue.Same.asFloat {w₂ w : FieldValue} (h : w₂.Same w) {k₂ k : NumericKind}
    {lo₂ hi₂ lo hi : Int} (h₂ : w₂.FitsNumeric k₂ lo₂ hi₂) (h₁ : w.FitsNumeric k lo hi) :
    ∃ y₂ y : Float, w₂.asFloat? = some y₂ ∧ w.asFloat? = some y ∧ y₂.isFinite = true ∧
      y₂.scaled = y.scaled := by
  obtain ⟨y₂, hy₂, hf₂, -⟩ := FieldValue.FitsNumeric.asFloat h₂
  obtain ⟨y, hy, hf, -⟩ := FieldValue.FitsNumeric.asFloat h₁
  refine ⟨y₂, y, hy₂, hy, hf₂, ?_⟩
  cases w₂ <;> cases w <;> simp only [FieldValue.FitsNumeric] at h₂ h₁
  case number.number c x =>
    simp only [FieldValue.asFloat?, Option.some.injEq] at hy₂ hy
    subst hy₂ hy
    exact (Float.beq_iff_scaled hf₂ hf).1 h
  case integer.integer a b =>
    cases h
    rw [hy₂, Option.some.injEq] at hy
    rw [hy]
  all_goals cases h

/-- A numeric value is read back as it is. -/
theorem FieldValue.reread_of_fitsNumeric {w : FieldValue} {kind : NumericKind} {lo hi : Int}
    (h : w.FitsNumeric kind lo hi) : w.reread = w := by
  cases w with
  | number x => rfl
  | integer i => rfl
  | _ => cases h

/-- A numeric value within its constraint's bounds, written as JSON and read
again by that constraint, is kept up to `==` and goes unreported: a float
clamps to a float of its value, and an integer rounds back to itself. -/
theorem FieldSpec.repairField_numeric_of_lookup {f : String} {lo hi d : Float} {kind : NumericKind}
    (hwf : (FieldSpec.numeric f lo hi d kind).WellFormed) {raw : Json.Fields} {w : FieldValue}
    (hl : raw.lookup f = some w.toJson) (hfits : w.FitsNumeric kind lo.scaled hi.scaled) :
    ∃ w₂, (FieldSpec.numeric f lo hi d kind).repairField raw = some (f, w₂, none) ∧ w₂.Same w := by
  obtain ⟨hlo, hhi, hd₁, hd₂, -⟩ := hwf
  obtain ⟨hnone, y, hy, hcf, hcs⟩ := Payload.clampNumeric_toJson hlo hhi hd₁ hd₂ hfits
  cases w <;> simp only [FieldValue.FitsNumeric] at hfits
  case number x =>
    obtain ⟨rfl, hfits⟩ := hfits
    simp only [FieldValue.asFloat?, Option.some.injEq] at hy
    subst hy
    refine ⟨.number (Payload.clampNumeric (some (FieldValue.number x).toJson) lo hi d), ?_,
      (Float.beq_iff_scaled hcf hfits.1).2 hcs⟩
    simp only [FieldSpec.repairField, hl, hnone]
  case integer i =>
    obtain ⟨rfl, hfits⟩ := hfits
    simp only [FieldValue.asFloat?, Option.some.injEq] at hy
    subst hy
    obtain ⟨-, hs'⟩ := Float.ofInt_spec hfits.1
    obtain ⟨hrf, hrs⟩ := Float.roundHalfAway_of_scaled hcf (hcs.trans hs')
    have hi : (Payload.clampNumeric (some (FieldValue.integer i).toJson) lo hi d).roundHalfAway.toIntSat = i :=
      Float.toIntSat_eq hrf hrs (by omega)
    refine ⟨.integer i, ?_, rfl⟩
    simp only [FieldSpec.repairField, hl, hnone, hi]

/-! ## The second validation -/

namespace Policy

section Revalidate

variable {p : Policy} (hwf : p.WellFormed)
include hwf

/-- What a second validation makes of the field a constraint owns: the same
value as the first record read back, with the repair of a second cut. -/
theorem repairField_toPayload (raw : Json.Fields) {s : FieldSpec} (hs : s ∈ p.fields) {f : String}
    (hf : s.owner? = some f) :
    ∃ w w₂ rep, (validate p.domain raw p.fields).record.get? f = some w ∧
      s.repairField (validate p.domain raw p.fields).record.toPayload = some (f, w₂, rep) ∧
      w₂.Same w.reread ∧ rep.map (Repair.mk f) = s.recut (validate p.domain raw p.fields).record := by
  have hswf := hwf.fields_wellFormed s hs
  have hfield : ∀ {v rep}, s.repairField raw = some (f, v, rep) →
      (∀ lo hi d kind, s ≠ .numeric f lo hi d kind) →
      (validate p.domain raw p.fields).record.get? f = some v :=
    fun h hnum => get?_validate_of_not_member hwf raw hs h (not_mem_members hwf hs hf hnum)
  cases s with
  | numeric g lo hi d kind =>
    cases hf
    obtain ⟨w, hw, hfits⟩ := (settled_validate hwf raw).2.1 _ hs f rfl
    have hl : (validate p.domain raw p.fields).record.toPayload.lookup f = some w.toJson := by
      rw [Record.lookup_toPayload, hw, Option.map_some]
    obtain ⟨w₂, hrep, hsame⟩ := FieldSpec.repairField_numeric_of_lookup hswf hl hfits
    exact ⟨w, w₂, none, hw, hrep, (FieldValue.reread_of_fitsNumeric hfits).symm ▸ hsame, rfl⟩
  | choice g allowed d =>
    cases hf
    have hw := hfield rfl fun _ _ _ _ h => by cases h
    have hl : Payload.chooseLabel (raw.lookup f) allowed d ∈ allowed := Payload.chooseLabel_mem hswf
    refine ⟨_, .label (Payload.chooseLabel (raw.lookup f) allowed d), none, hw, ?_, rfl, rfl⟩
    simp only [FieldSpec.repairField, Record.lookup_toPayload, hw, Option.map_some, FieldValue.toJson,
      Payload.chooseLabel_of_mem hl, Payload.labelRepair_eq_none_iff.2 rfl]
  | text g fallback =>
    cases hf
    have hw := hfield rfl fun _ _ _ _ h => by cases h
    have ht : (Payload.keepText (raw.lookup f) fallback).isBlank = false :=
      Payload.keepText_not_blank hswf
    refine ⟨_, .text ((Payload.keepText (raw.lookup f) fallback).trimUnicode.takeChars maxTextChars),
      Payload.textRepair (some (.string (Payload.keepText (raw.lookup f) fallback))), hw, ?_, rfl, ?_⟩
    · simp only [FieldSpec.repairField, Record.lookup_toPayload, hw, Option.map_some,
        FieldValue.toJson, Payload.keepText_of_not_blank ht]
    · rw [Payload.textRepair_of_not_blank ht]
      simp only [FieldSpec.recut, hw]
      split <;> rfl
  | textList g maxItems =>
    cases hf
    have hw := hfield rfl fun _ _ _ _ h => by cases h
    refine ⟨_, .list (Payload.keepTextList (raw.lookup f) maxItems), none, hw, ?_, rfl, rfl⟩
    simp only [FieldSpec.repairField, Record.lookup_toPayload, hw, Option.map_some, FieldValue.toJson,
      Payload.keepTextList_keepTextList, Payload.textListRepair_keepTextList]
  | cohortFloor g k =>
    cases hf
    have hw := hfield rfl fun _ _ _ _ h => by cases h
    obtain ⟨hkeep, hnone⟩ := Payload.enforceFloor_enforceFloor hswf (raw.lookup f)
    refine ⟨_, .integer (Payload.enforceFloor (raw.lookup f) k), none, hw, ?_, rfl, rfl⟩
    simp only [FieldSpec.repairField, Record.lookup_toPayload, hw, Option.map_some, FieldValue.toJson,
      hkeep, hnone]
  | nested g shape =>
    cases hf
    have hw := hfield rfl fun _ _ _ _ h => by cases h
    obtain ⟨hkeep, hnone⟩ := Payload.keepNested_keepNested hswf.1 hswf.2 (raw.lookup f)
    refine ⟨_, .nested (Payload.keepNested (raw.lookup f) shape), none, hw, ?_, rfl, rfl⟩
    simp only [FieldSpec.repairField, Record.lookup_toPayload, hw, Option.map_some, FieldValue.toJson,
      hkeep, hnone]
  | ordering fields => cases hf

/-- On a record whose fields hold and whose group members have the values of
the first record's, every group of the policy is left as it is: the first
record's groups ascend in value.  Each member reads as a finite float in
either record, of one value in both. -/
theorem reorder_of_same (raw : Json.Fields) {fields : List String}
    (hs : .ordering fields ∈ p.fields) {r₂ : Record} (hholds : p.FieldsHold r₂)
    (hsame : ∀ g ∈ fields, Option.Rel FieldValue.Same (r₂.get? g)
      (((validate p.domain raw p.fields).record.get? g).map FieldValue.reread)) :
    r₂.reorder fields = (r₂, []) := by
  obtain ⟨-, h₁, hsorted⟩ := settled_validate hwf raw
  generalize (validate p.domain raw p.fields).record = r at h₁ hsorted hsame
  by_cases hne : fields = []
  · subst hne
    rfl
  obtain ⟨kind, lo, hi, hrange⟩ := hwf.exists_groupRange hs (List.head_mem hne)
  have hfit₁ := groupFits_of_fieldsHold h₁ hrange
  have hfit₂ := groupFits_of_fieldsHold hholds hrange
  have hval : ∀ g ∈ fields, (r.numberOf g).isFinite = true ∧
      (r₂.numberOf g).isFinite = true ∧ (r₂.numberOf g).scaled = (r.numberOf g).scaled := by
    intro g hg
    obtain ⟨w₂, hw₂, hfits₂⟩ := hfit₂ g hg
    obtain ⟨w, hw, hfits⟩ := hfit₁ g hg
    have hrel := hsame g hg
    rw [hw₂, hw, Option.map_some, FieldValue.reread_of_fitsNumeric hfits] at hrel
    have hsame' : w₂.Same w := by
      cases hrel
      assumption
    obtain ⟨y₂, y, hy₂, hy, hf₂, hsc⟩ := hsame'.asFloat hfits₂ hfits
    obtain ⟨y', hy', hf, -⟩ := FieldValue.FitsNumeric.asFloat hfits
    rw [hy, Option.some.injEq] at hy'
    subst hy'
    rw [Record.numberOf_of_get? hw₂ hy₂, Record.numberOf_of_get? hw hy]
    exact ⟨hf, hf₂, hsc⟩
  have hasc := Record.pairwise_of_checkSpec hfit₁ (hsorted fields hs fun _ _ => List.not_mem_nil)
  apply Record.reorder_of_pairwise (Record.numbers_of_groupFits hfit₂) fun g hg => (hval g hg).2.1
  rw [List.pairwise_map] at hasc ⊢
  exact hasc.imp_of_mem fun ha hb h => by rw [(hval _ ha).2.2, (hval _ hb).2.2]; exact h

/-- Validating a validated record again, written back as a payload, gives back
the record up to a second trim and cut of each text, numbers being compared by
IEEE equality, and reports only those second cuts: none, unless a fallback
text is longer than the limit.  The field phase of the second validation gives
each field its value again, and its ordering phase moves nothing. -/
theorem validate_toPayload (raw : Json.Fields) :
    let r := (validate p.domain raw p.fields).record
    (validate p.domain r.toPayload p.fields).repairs = p.fields.filterMap (FieldSpec.recut r) ∧
      (validate p.domain r.toPayload p.fields).record.domain = r.domain ∧
      ∀ f, Option.Rel FieldValue.Same ((validate p.domain r.toPayload p.fields).record.get? f)
        ((r.get? f).map FieldValue.reread) := by
  intro r
  set v₂ := p.fields.foldl (Validation.applyField r.toPayload) ⟨Record.empty p.domain, []⟩ with hv₂
  have hget : ∀ f, Option.Rel FieldValue.Same (v₂.record.get? f) ((r.get? f).map FieldValue.reread) := by
    intro f
    by_cases hown : ∃ s ∈ p.fields, s.owner? = some f
    · obtain ⟨s, hs, hf⟩ := hown
      obtain ⟨w, w₂, rep, hw, hrep, hsame, -⟩ := repairField_toPayload hwf raw hs hf
      rw [hv₂, Validation.get?_foldl_applyField _ hrep _ _ hwf.owners_nodup hs, hw]
      exact Option.Rel.some hsame
    · have hun : ∀ s ∈ p.fields, s.owner? ≠ some f := fun s hs hf => hown ⟨s, hs, hf⟩
      rw [hv₂, Validation.get?_foldl_applyField_of_unowned _ _ _ hun,
        get?_validate_eq_none hwf raw hun]
      exact Option.Rel.none
  have hval : validate p.domain r.toPayload p.fields = v₂ :=
    Validation.foldl_applyOrdering_eq_self _ fun fields hs =>
      reorder_of_same hwf raw hs (fieldsHold_foldl_applyField hwf _ _) fun g _ => hget g
  rw [hval]
  refine ⟨?_, ?_, hget⟩
  · rw [hv₂, Validation.repairs_foldl_applyField, List.nil_append]
    refine List.filterMap_congr fun s hs => ?_
    cases hown : s.owner? with
    | none =>
      cases s <;> simp only [FieldSpec.owner?, reduceCtorEq] at hown
      rfl
    | some f =>
      obtain ⟨w, w₂, rep, -, hrep, -, hrecut⟩ := repairField_toPayload hwf raw hs hown
      rw [hrep, ← hrecut]
      rfl
  · rw [hv₂, Validation.domain_foldl_applyField, (settled_validate hwf raw).1]
    rfl

end Revalidate

end Policy

/-- The automation-risk policy validates the record of an empty payload
again into the same record. -/
theorem automationRisk_validate_toPayload :
    let p := Domain.automationRisk.policy
    let r := (validate p.domain [] p.fields).record
    (validate p.domain r.toPayload p.fields).repairs = p.fields.filterMap (FieldSpec.recut r) ∧
      (validate p.domain r.toPayload p.fields).record.domain = r.domain ∧
      ∀ f, Option.Rel FieldValue.Same ((validate p.domain r.toPayload p.fields).record.get? f)
        ((r.get? f).map FieldValue.reread) :=
  Policy.validate_toPayload (Domain.policy_wellFormed .automationRisk) []

end CareerInsight
