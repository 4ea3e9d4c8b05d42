import Mathlib
import CareerInsight.Proofs.Binary64.Exact
import CareerInsight.Proofs.Validation.Repair

/-!
# Which corrections are reported

A field constraint stores a value for its field and, beside it, says why the
value had to change, or says nothing.  This file compares the two: what the
constraint stores against the payload value it read.

* `FieldSpec.Keeps`: the stored value is the payload value itself, numbers
  compared by the exact value of the JSON number, a text after trimming, a
  list against the array's items with each string trimmed, and an object on
  the shape's keys only.
* `FieldSpec.KeepsAsRead`: the stored value is the payload value as the
  constraint reads it.  This differs from `Keeps` for numbers only: a number
  is read as the nearest float, and an integer field or a group size rounds
  that float half away from zero and saturates it to a signed 64-bit
  integer.
* `FieldSpec.repairField_reports_changes`: under a well-formed constraint, a
  repair is reported only for a value that changed, and a value stored with
  no repair is the payload value as read.  A number may change silently, by
  the reading alone: `2.5` in an integer field is stored as `3`, and the
  integer `2 ^ 53 + 1` in a float field as `2 ^ 53`.

The numeric part rests on `JsonNumber.toFloat_of_exact`: a JSON number whose
exact value is the value of a finite float reads as exactly that float.
-/

/-! ## Blank and short texts -/

/-- Trimming empties a text exactly when every character is `White_Space`. -/
theorem List.trimUnicode_eq_nil_iff (cs : List Char) :
    cs.trimUnicode = [] ↔ cs.all Char.isUnicodeSpace = true := by
  rw [List.all_eq_true]
  constructor
  · intro h x hx
    rw [List.trimUnicode, List.reverse_eq_nil_iff, List.dropWhile_eq_nil_iff] at h
    rw [← List.takeWhile_append_dropWhile (p := Char.isUnicodeSpace) (l := cs), List.mem_append] at hx
    rcases hx with hx | hx
    · exact List.mem_takeWhile_imp hx
    · exact h x (List.mem_reverse.2 hx)
  · intro h
    rw [List.trimUnicode, List.dropWhile_eq_nil_iff.2 h]
    rfl

/-- A text is blank exactly when trimming empties it. -/
theorem String.isBlank_iff_trimUnicode (s : String) :
    s.isBlank = true ↔ s.trimUnicode.isEmpty = true := by
  rw [String.isBlank, ← List.trimUnicode_eq_nil_iff, String.trimUnicode]
  simp

/-- A text no longer than the cut is kept whole. -/
theorem String.takeChars_of_le {s : String} {n : Nat} (h : s.charCount ≤ n) : s.takeChars n = s := by
  rw [String.takeChars, List.take_of_length_le h, String.ofList_toList]

/-- A cut text shorter than the text differs from it. -/
theorem String.takeChars_ne {s : String} {n : Nat} (h : n < s.charCount) : s.takeChars n ≠ s := by
  intro heq
  have hlen := congrArg String.charCount heq
  simp only [String.charCount, String.takeChars, String.toList_ofList, List.length_take] at hlen h
  omega

namespace CareerInsight

/-! ## Exact values -/

/-- The exact value of a JSON number in units of `2 ^ -1074`; none for a
float that is not finite, which no document holds. -/
def JsonNumber.exactValue? : JsonNumber → Option Int
  | natural n => some (n * 2 ^ 1074)
  | negative n => some (n * 2 ^ 1074)
  | float x => if x.isFinite then some x.scaled else none

/-- The exact value of a numeric field value in the same units; none for a
float that is not finite and for every other kind. -/
def FieldValue.exactValue? : FieldValue → Option Int
  | number x => if x.isFinite then some x.scaled else none
  | integer i => some (i * 2 ^ 1074)
  | _ => none

/-- A JSON number whose exact value is the value of a finite float reads as
exactly that float: an integer converts exactly, and a float is itself. -/
theorem JsonNumber.toFloat_of_exact {m : JsonNumber} {y : Float} (hy : y.isFinite = true)
    (h : m.exactValue? = some y.scaled) : m.toFloat.isFinite = true ∧ m.toFloat.scaled = y.scaled := by
  cases m with
  | natural n =>
    simp only [exactValue?, Option.some.injEq] at h
    exact Float.ofNat_spec_of_scaled hy h.symm |>.imp id (·.trans h)
  | negative n =>
    simp only [exactValue?, Option.some.injEq] at h
    exact Float.ofInt_spec_of_scaled hy h.symm |>.imp id (·.trans h)
  | float x =>
    simp only [exactValue?] at h
    split at h
    · exact ⟨‹_›, Option.some.inj h⟩
    · cases h

/-- A value that fits a numeric field reads as a finite float within the
bounds, and has that float's value as exact value. -/
theorem FieldValue.FitsNumeric.exists_exactValue {v : FieldValue} {kind : NumericKind} {lo hi : Int}
    (h : v.FitsNumeric kind lo hi) :
    ∃ y : Float, y.isFinite = true ∧ v.asFloat? = some y ∧ v.exactValue? = some y.scaled ∧
      lo ≤ y.scaled ∧ y.scaled ≤ hi := by
  cases v with
  | number x => exact ⟨x, h.2.1, rfl, by simp [FieldValue.exactValue?, h.2.1], h.2.2⟩
  | integer i =>
    obtain ⟨-, hi, h₁, h₂⟩ := h
    obtain ⟨hf, hs⟩ := Float.ofInt_spec hi
    exact ⟨Float.ofInt i, hf, rfl, by rw [hs]; rfl, hs ▸ h₁, hs ▸ h₂⟩
  | _ => cases h

/-- Two finite floats of one value round and saturate to one integer. -/
theorem Float.roundHalfAway_toIntSat_congr {x y : Float} (hx : x.isFinite = true)
    (hy : y.isFinite = true) (h : x.scaled = y.scaled) :
    x.roundHalfAway.toIntSat = y.roundHalfAway.toIntSat := by
  obtain ⟨hfx, hsx⟩ := Float.roundHalfAway_spec hx
  obtain ⟨hfy, hsy⟩ := Float.roundHalfAway_spec hy
  rw [Float.toIntSat_of_isFinite hfx, Float.toIntSat_of_isFinite hfy, hsx, hsy, h]

/-- A float whose value is a whole number rounds to a float of that value. -/
theorem Float.roundHalfAway_of_scaled {x : Float} {k : Int} (hx : x.isFinite = true)
    (hs : x.scaled = k * 2 ^ 1074) :
    x.roundHalfAway.isFinite = true ∧ x.roundHalfAway.scaled = k * 2 ^ 1074 := by
  obtain ⟨hf, hr⟩ := Float.roundHalfAway_spec hx
  obtain ⟨q, hq, hkq, hqk⟩ := Float.roundHalfAwayUnits_between (le_of_eq hs.symm) (le_of_eq hs)
  refine ⟨hf, ?_⟩
  rw [hr, hq, show q = k by omega]

/-! ## What a constraint keeps -/

/-- An array item as a text list compares it: a string trimmed, any other
item as it is. -/
def trimItem : Json → Json
  | .string s => .string s.trimUnicode
  | j => j

/-- The payload value is a number whose reading as a float is finite and,
rounded half away from zero and saturated, is the integer stored. -/
def RoundsTo (input : Option Json) (v : FieldValue) : Prop :=
  ∃ m : JsonNumber, input = some (.number m) ∧ m.toFloat.isFinite = true ∧
    v = .integer m.toFloat.roundHalfAway.toIntSat

namespace FieldSpec

/-- The value a constraint stores is the payload value `input` itself: a
number of the same exact value, the same label, the text trimmed, the
array's items with each string trimmed, and an object that agrees on the
shape's keys. -/
def Keeps : FieldSpec → Option Json → FieldValue → Prop
  | numeric .., input, v | cohortFloor .., input, v =>
    ∃ m q, input = some (.number m) ∧ m.exactValue? = some q ∧ v.exactValue? = some q
  | choice .., input, v => ∃ s, input = some (.string s) ∧ v = .label s
  | text .., input, v => ∃ s, input = some (.string s) ∧ v = .text s.trimUnicode
  | textList .., input, v =>
    ∃ items ls, input = some (.array items) ∧ v = .list ls ∧ items.map trimItem = ls.map .string
  | nested _ shape, input, v =>
    ∃ fields kept, input = some (.object fields) ∧ v = .nested kept ∧
      ∀ e ∈ shape, Json.Fields.lookup kept e.1 = Json.Fields.lookup fields e.1
  | ordering _, _, _ => False

/-- The value a constraint stores is the payload value as the constraint
reads it.  A float field holds the number's reading as a float, an integer
field and a group size that reading rounded and saturated; any other value
is kept as `Keeps` compares it. -/
def KeepsAsRead : FieldSpec → Option Json → FieldValue → Prop
  | numeric _ _ _ _ .float, input, v =>
    ∃ m : JsonNumber, input = some (.number m) ∧ m.toFloat.isFinite = true ∧
      v.exactValue? = some m.toFloat.scaled
  | numeric _ _ _ _ .integer, input, v | cohortFloor .., input, v => RoundsTo input v
  | spec, input, v => spec.Keeps input v

end FieldSpec

/-! ## Each constraint kind -/

namespace Payload

variable {input : Option Json}

/-- The clamp of a finite float is finite, with the value of the integer
clamp. -/
theorem clampFloat_spec {n lo hi d : Float} (hn : n.isFinite = true) (hlo : lo.isFinite = true)
    (hhi : hi.isFinite = true) :
    (clampFloat n lo hi d).isFinite = true ∧
      (clampFloat n lo hi d).scaled = max lo.scaled (min n.scaled hi.scaled) := by
  obtain ⟨hmf, hms⟩ := Float.minNum_spec hn hhi
  obtain ⟨hf, hs⟩ := Float.maxNum_spec hlo hmf
  rw [clampFloat, if_pos hn]
  exact ⟨hf, by rw [hs, hms]⟩

/-- Clamping a finite float that lies within the bounds keeps its value. -/
theorem scaled_clampFloat {n lo hi d : Float} (hn : n.isFinite = true) (hlo : lo.isFinite = true)
    (hhi : hi.isFinite = true) (h₁ : lo.scaled ≤ n.scaled) (h₂ : n.scaled ≤ hi.scaled) :
    (clampFloat n lo hi d).scaled = n.scaled := by
  rw [(clampFloat_spec (d := d) hn hlo hhi).2]
  omega

/-- A number goes unreported exactly when it reads as a finite float equal
to the clamped one. -/
theorem numericRepair_eq_none_iff {c : Float} :
    numericRepair input c = none ↔ ∃ m : JsonNumber, input = some (.number m) ∧
      m.toFloat.isFinite = true ∧ (m.toFloat == c) = true := by
  rcases input with _ | ⟨_ | _ | m | _ | _ | _⟩ <;> simp only [numericRepair, number?, reduceCtorEq,
    Option.some.injEq, Json.number.injEq, false_and, exists_false, exists_eq_left']
  split_ifs with hf heq <;> simp_all

/-- A number whose exact value is a float within the bounds goes
unreported: it reads as that float, and the clamp keeps it. -/
theorem numericRepair_of_exactValue {lo hi d y : Float} (hlo : lo.isFinite = true)
    (hhi : hi.isFinite = true) (hd₁ : lo ≤ d) (hd₂ : d ≤ hi) (hy : y.isFinite = true)
    (h₁ : lo.scaled ≤ y.scaled) (h₂ : y.scaled ≤ hi.scaled) {m : JsonNumber}
    (hin : input = some (.number m)) (hm : m.exactValue? = some y.scaled) :
    numericRepair input (clampNumeric input lo hi d) = none := by
  obtain ⟨hf, hs⟩ := JsonNumber.toFloat_of_exact hy hm
  have hc : (clampNumeric input lo hi d).Within lo hi := clampNumeric_within hlo hhi hd₁ hd₂
  subst hin
  have hcs : (clampFloat m.toFloat lo hi d).scaled = m.toFloat.scaled :=
    scaled_clampFloat hf hlo hhi (hs ▸ h₁) (hs ▸ h₂)
  exact numericRepair_eq_none_iff.2 ⟨m, rfl, hf, (Float.beq_iff_scaled hf hc.1).2 hcs.symm⟩

/-- A number stored with no report has the value of the payload number's
reading as a float. -/
theorem clampNumeric_of_numericRepair {lo hi d : Float} (hlo : lo.isFinite = true)
    (hhi : hi.isFinite = true) (hd₁ : lo ≤ d) (hd₂ : d ≤ hi)
    (h : numericRepair input (clampNumeric input lo hi d) = none) :
    ∃ m : JsonNumber, input = some (.number m) ∧ m.toFloat.isFinite = true ∧
      (clampNumeric input lo hi d).isFinite = true ∧
      (clampNumeric input lo hi d).scaled = m.toFloat.scaled := by
  obtain ⟨m, hin, hf, heq⟩ := numericRepair_eq_none_iff.1 h
  have hc : (clampNumeric input lo hi d).Within lo hi := clampNumeric_within hlo hhi hd₁ hd₂
  exact ⟨m, hin, hf, hc.1, ((Float.beq_iff_scaled hf hc.1).1 heq).symm⟩

/-- A group size goes unreported exactly when it reads as a finite float that
rounds to at least the floor.  On finite floats `<` and `≤` are the order of
the values. -/
theorem floorRepair_eq_none_iff {k : Int} (hk : k.natAbs ≤ 2 ^ 53) :
    floorRepair input k = none ↔ ∃ m : JsonNumber, input = some (.number m) ∧
      m.toFloat.isFinite = true ∧ Float.ofInt k ≤ m.toFloat.roundHalfAway := by
  obtain ⟨hkf, -⟩ := Float.ofInt_spec hk
  rcases input with _ | ⟨_ | _ | m | _ | _ | _⟩ <;> simp only [floorRepair, number?, reduceCtorEq,
    Option.some.injEq, Json.number.injEq, false_and, exists_false, exists_eq_left']
  by_cases hf : m.toFloat.isFinite = true
  · have hrf := (Float.roundHalfAway_spec hf).1
    have hiff : ¬ m.toFloat.roundHalfAway < Float.ofInt k ↔ Float.ofInt k ≤ m.toFloat.roundHalfAway := by
      rw [Float.lt_iff_scaled hrf hkf, Float.le_iff_scaled hkf hrf]
      omega
    simp only [hf, Bool.not_true, Bool.false_eq_true, if_false, true_and]
    split_ifs with hlt
    · simp only [false_iff]
      exact fun hle => hiff.2 hle hlt
    · simp only [true_iff]
      exact hiff.1 hlt
  · simp [hf]

/-- A group size that reaches the floor is stored rounded and saturated. -/
theorem enforceFloor_of_le {m : JsonNumber} {k : Int} (hf : m.toFloat.isFinite = true)
    (hle : Float.ofInt k ≤ m.toFloat.roundHalfAway) :
    enforceFloor (some (.number m)) k = m.toFloat.roundHalfAway.toIntSat := by
  simp [enforceFloor, number?, hf, hle]

/-- A group size whose exact value is the integer stored goes unreported:
stored as the floor, it would read as the floor and reach it. -/
theorem floorRepair_of_exactValue {k : Int} (hk : k.natAbs ≤ 2 ^ 53) {m : JsonNumber}
    (hin : input = some (.number m)) (hm : m.exactValue? = some (enforceFloor input k * 2 ^ 1074)) :
    floorRepair input k = none := by
  subst hin
  by_cases hb : m.toFloat.isFinite = true ∧ Float.ofInt k ≤ m.toFloat.roundHalfAway
  · exact (floorRepair_eq_none_iff hk).2 ⟨m, rfl, hb.1, hb.2⟩
  · have hk' : enforceFloor (some (.number m)) k = k := by
      simp only [enforceFloor, number?, Bool.and_eq_true, decide_eq_true_eq]
      rw [if_neg hb]
    rw [hk'] at hm
    obtain ⟨hkf, hks⟩ := Float.ofInt_spec hk
    obtain ⟨hf, hs⟩ := JsonNumber.toFloat_of_exact hkf (hks ▸ hm)
    obtain ⟨hrf, hrs⟩ := Float.roundHalfAway_of_scaled hf (hs.trans hks)
    exact absurd ⟨hf, (Float.le_iff_scaled hkf hrf).2 (by rw [hks, hrs])⟩ hb

/-- A label goes unreported exactly when the payload gave that label. -/
theorem labelRepair_eq_none_iff {label : String} :
    labelRepair input label = none ↔ input = some (.string label) := by
  rcases input with _ | ⟨_ | _ | _ | s | _ | _⟩ <;>
    simp [labelRepair]

/-- A text goes unreported exactly when it is not blank and not longer than
the cut after trimming. -/
theorem textRepair_eq_none_iff :
    textRepair input = none ↔ ∃ s, input = some (.string s) ∧ s.isBlank = false ∧
      s.trimUnicode.charCount ≤ maxTextChars := by
  rcases input with _ | ⟨_ | _ | _ | s | _ | _⟩ <;> simp only [textRepair, reduceCtorEq,
    Option.some.injEq, Json.string.injEq, false_and, exists_false, exists_eq_left']
  split_ifs <;> simp_all

/-- The text stored for a string is the trimmed string exactly when the string
is not blank and not longer than the cut.  A blank string gives the fallback,
which is not blank. -/
theorem keepText_eq_trimUnicode_iff {fallback s : String} (hfb : fallback.isBlank = false) :
    keepText (some (.string s)) fallback = s.trimUnicode ↔
      s.isBlank = false ∧ s.trimUnicode.charCount ≤ maxTextChars := by
  simp only [keepText]
  by_cases hb : s.isBlank = true
  · have he := (String.isBlank_iff_trimUnicode s).1 hb
    rw [if_pos he, hb]
    simp only [Bool.true_eq_false, false_and, iff_false]
    intro heq
    rw [heq, String.isEmpty_iff.1 he] at hfb
    exact absurd hfb (by decide)
  · have he : ¬ s.trimUnicode.isEmpty = true := fun h => hb ((String.isBlank_iff_trimUnicode s).2 h)
    rw [if_neg he, Bool.eq_false_iff.2 hb]
    simp only [true_and]
    constructor
    · intro h
      by_contra hlt
      exact String.takeChars_ne (by omega) h
    · exact String.takeChars_of_le

/-- Reading one item adds at most one text. -/
theorem length_keepItem_le (kept : List String) (item : Json) :
    (keepItem kept item).length ≤ kept.length + 1 := by
  unfold keepItem
  split
  · dsimp only
    split <;> simp
  · omega

/-- An item that adds a text is a string, and adds it trimmed. -/
theorem keepItem_of_length {kept : List String} {item : Json}
    (h : (keepItem kept item).length = kept.length + 1) :
    ∃ s, item = .string s ∧ keepItem kept item = kept ++ [s.trimUnicode] := by
  cases item <;> simp only [keepItem] at h ⊢ <;> try omega
  case string s =>
    split at h
    · omega
    · next hc => exact ⟨s, rfl, by rw [if_neg hc]⟩

/-- Reading items adds at most one text for each. -/
theorem length_foldl_keepItem_le (items : List Json) (kept : List String) :
    (items.foldl keepItem kept).length ≤ kept.length + items.length := by
  induction items generalizing kept with
  | nil => simp
  | cons item rest ih =>
    have h₁ := ih (keepItem kept item)
    have h₂ := length_keepItem_le kept item
    rw [List.foldl_cons, List.length_cons]
    omega

/-- Items that each add a text are strings, kept trimmed and in order.  The
first item must add a text, or the rest could not make up the count. -/
theorem foldl_keepItem_of_length {items : List Json} {kept : List String}
    (h : (items.foldl keepItem kept).length = kept.length + items.length) :
    (items.foldl keepItem kept).map Json.string = kept.map Json.string ++ items.map trimItem := by
  induction items generalizing kept with
  | nil => simp
  | cons item rest ih =>
    rw [List.foldl_cons] at h ⊢
    have hle := length_foldl_keepItem_le rest (keepItem kept item)
    have hone : (keepItem kept item).length = kept.length + 1 := by
      have := length_keepItem_le kept item
      rw [List.length_cons] at h
      omega
    obtain ⟨s, rfl, hk⟩ := keepItem_of_length hone
    rw [ih (by rw [h, hone, List.length_cons]; omega), hk]
    simp [trimItem]

/-- A text list goes unreported exactly when the payload is an array whose
items, strings trimmed, are the texts stored.  The texts stored number as many
as the items only if none was cut or dropped. -/
theorem textListRepair_eq_none_iff {maxItems : Nat} :
    textListRepair input maxItems = none ↔ ∃ items, input = some (.array items) ∧
      items.map trimItem = (keepTextList input maxItems).map Json.string := by
  rcases input with _ | ⟨_ | _ | _ | _ | items | _⟩ <;> simp only [textListRepair, reduceCtorEq,
    Option.some.injEq, Json.array.injEq, false_and, exists_false, exists_eq_left']
  simp only [keepTextList]
  rw [show usableItems (some (.array items)) = items.foldl keepItem [] from rfl]
  have hle := length_foldl_keepItem_le items []
  rw [List.length_nil, Nat.zero_add] at hle
  split_ifs with htrunc hne
  · simp only [false_iff]
    intro h
    have hlen := congrArg List.length h
    simp only [List.length_map, List.length_take] at hlen
    omega
  · simp only [false_iff]
    intro h
    have hlen := congrArg List.length h
    simp only [List.length_map, List.length_take] at hlen
    simp only [bne_iff_ne, ne_eq] at hne
    omega
  · simp only [true_iff]
    simp only [bne_iff_ne, ne_eq, Decidable.not_not] at hne
    rw [List.take_of_length_le (by omega), foldl_keepItem_of_length (by simpa using hne)]
    simp

/-- A nested object goes unreported exactly when the payload is an object
that conforms to the shape. -/
theorem nestedRepair_eq_none_iff {shape : NestedShape} :
    nestedRepair input shape = none ↔
      ∃ fields, input = some (.object fields) ∧ conforms fields shape = true := by
  rcases input with _ | ⟨_ | _ | _ | _ | _ | fields⟩ <;> simp only [nestedRepair, reduceCtorEq,
    Option.some.injEq, Json.object.injEq, false_and, exists_false, exists_eq_left']
  split_ifs <;> simp_all

/-- The object kept from a conforming one agrees with it on the shape's
keys. -/
theorem lookup_keepNested {fields : Json.Fields} {shape : NestedShape}
    (hc : conforms fields shape = true) :
    ∀ e ∈ shape, Json.Fields.lookup (keepNested (some (.object fields)) shape) e.1 =
      Json.Fields.lookup fields e.1 := by
  rintro ⟨key, expected⟩ hmem
  have hfit := List.all_eq_true.1 hc _ hmem
  obtain ⟨w, hw⟩ : ∃ w, Json.Fields.lookup fields key = some w := by
    cases h : Json.Fields.lookup fields key with
    | none => simp [h, fitsShape] at hfit
    | some w => exact ⟨w, rfl⟩
  simp only [keepNested, hc, if_true]
  rw [lookup_keptKeys hmem hw, hw]

/-- An object that agrees with what a well-formed shape keeps of it
conforms: otherwise the defaults are kept, and the defaults fit. -/
theorem conforms_of_lookup_keepNested {fields : Json.Fields} {shape : NestedShape}
    (hkeys : (shape.map (·.1)).Nodup) (husable : ∀ entry ∈ shape, entry.2.Usable)
    (h : ∀ e ∈ shape, Json.Fields.lookup (keepNested (some (.object fields)) shape) e.1 =
      Json.Fields.lookup fields e.1) :
    conforms fields shape = true := by
  by_contra hc
  have hdef : keepNested (some (.object fields)) shape = shapeDefault shape := by
    simp [keepNested, hc]
  apply hc
  refine List.all_eq_true.2 fun ⟨key, expected⟩ hmem => ?_
  have hk := h _ hmem
  rw [hdef, lookup_shapeDefault hkeys hmem] at hk
  dsimp only
  rw [← hk]
  exact fitsShape_toJson (husable _ hmem)

end Payload

/-! ## Reports and changes -/

namespace FieldSpec

/-- Repairs report the changes, up to the reading of numbers: under a
well-formed constraint, a value stored as the payload gave it goes
unreported, and a value that goes unreported is the payload value as the
constraint reads it.  The second half is all that holds of numbers: the
reading itself may change one without a report. -/
theorem repairField_reports_changes {spec : FieldSpec} (hwf : spec.WellFormed) (raw : Json.Fields)
    {f : String} {v : FieldValue} {r : Option RepairKind} (h : spec.repairField raw = some (f, v, r)) :
    (spec.Keeps (raw.lookup f) v → r = none) ∧ (r = none → spec.KeepsAsRead (raw.lookup f) v) := by
  have hholds := repairField_holds hwf h
  cases spec with
  | numeric field lo hi d kind =>
    obtain ⟨hlo, hhi, hd₁, hd₂, -⟩ := hwf
    simp only [repairField, Option.some.injEq, Prod.mk.injEq] at h
    obtain ⟨rfl, rfl, rfl⟩ := h
    refine ⟨fun hkeep => ?_, fun hr => ?_⟩
    · obtain ⟨m, q, hin, hm, hv⟩ := hkeep
      obtain ⟨y, hy, -, hvy, h₁, h₂⟩ := FieldValue.FitsNumeric.exists_exactValue hholds
      rw [hvy, Option.some.injEq] at hv
      exact Payload.numericRepair_of_exactValue hlo hhi hd₁ hd₂ hy h₁ h₂ hin (hv ▸ hm)
    · obtain ⟨m, hin, hf, hcf, hcs⟩ := Payload.clampNumeric_of_numericRepair hlo hhi hd₁ hd₂ hr
      cases kind with
      | float => exact ⟨m, hin, hf, by simp [FieldValue.exactValue?, hcf, hcs]⟩
      | integer => exact ⟨m, hin, hf, by rw [Float.roundHalfAway_toIntSat_congr hcf hf hcs]⟩
  | choice field allowed d =>
    simp only [repairField, Option.some.injEq, Prod.mk.injEq] at h
    obtain ⟨rfl, rfl, rfl⟩ := h
    refine ⟨fun hkeep => ?_, fun hr => ⟨_, Payload.labelRepair_eq_none_iff.1 hr, rfl⟩⟩
    obtain ⟨s, hin, hv⟩ := hkeep
    rw [FieldValue.label.injEq] at hv
    exact Payload.labelRepair_eq_none_iff.2 (hv ▸ hin)
  | text field fallback =>
    simp only [repairField, Option.some.injEq, Prod.mk.injEq] at h
    obtain ⟨rfl, rfl, rfl⟩ := h
    refine ⟨fun hkeep => ?_, fun hr => ?_⟩
    · obtain ⟨s, hin, hv⟩ := hkeep
      rw [FieldValue.text.injEq, hin] at hv
      obtain ⟨hb, hlen⟩ := (Payload.keepText_eq_trimUnicode_iff hwf).1 hv
      exact Payload.textRepair_eq_none_iff.2 ⟨s, hin, hb, hlen⟩
    · obtain ⟨s, hin, hb, hlen⟩ := Payload.textRepair_eq_none_iff.1 hr
      exact ⟨s, hin, by rw [hin, (Payload.keepText_eq_trimUnicode_iff hwf).2 ⟨hb, hlen⟩]⟩
  | textList field maxItems =>
    simp only [repairField, Option.some.injEq, Prod.mk.injEq] at h
    obtain ⟨rfl, rfl, rfl⟩ := h
    refine ⟨fun hkeep => ?_, fun hr => ?_⟩
    · obtain ⟨items, ls, hin, hv, hmap⟩ := hkeep
      rw [FieldValue.list.injEq] at hv
      exact Payload.textListRepair_eq_none_iff.2 ⟨items, hin, hv ▸ hmap⟩
    · obtain ⟨items, hin, hmap⟩ := Payload.textListRepair_eq_none_iff.1 hr
      exact ⟨items, _, hin, rfl, hmap⟩
  | cohortFloor field k =>
    simp only [repairField, Option.some.injEq, Prod.mk.injEq] at h
    obtain ⟨rfl, rfl, rfl⟩ := h
    refine ⟨fun hkeep => ?_, fun hr => ?_⟩
    · obtain ⟨m, q, hin, hm, hv⟩ := hkeep
      simp only [FieldValue.exactValue?, Option.some.injEq] at hv
      exact Payload.floorRepair_of_exactValue hwf hin (hv ▸ hm)
    · obtain ⟨m, hin, hf, hle⟩ := (Payload.floorRepair_eq_none_iff hwf).1 hr
      exact ⟨m, hin, hf, by rw [hin, Payload.enforceFloor_of_le hf hle]⟩
  | nested field shape =>
    obtain ⟨hkeys, husable⟩ := hwf
    simp only [repairField, Option.some.injEq, Prod.mk.injEq] at h
    obtain ⟨rfl, rfl, rfl⟩ := h
    refine ⟨fun hkeep => ?_, fun hr => ?_⟩
    · obtain ⟨fields, kept, hin, hv, hagree⟩ := hkeep
      rw [FieldValue.nested.injEq] at hv
      rw [← hv, hin] at hagree
      exact Payload.nestedRepair_eq_none_iff.2
        ⟨fields, hin, Payload.conforms_of_lookup_keepNested hkeys husable hagree⟩
    · obtain ⟨fields, hin, hc⟩ := Payload.nestedRepair_eq_none_iff.1 hr
      exact ⟨fields, _, hin, rfl, by rw [hin]; exact Payload.lookup_keepNested hc⟩
  | ordering fields => simp [repairField] at h

/-- `2.5` in an integer field from `0` to `10` is stored as `3` with no
report: it is kept as read, though not as given. -/
theorem integer_reads_half_away :
    (FieldSpec.integer "x" 0.0 10.0 5.0).repairField [("x", .number (.float 2.5))] =
        some ("x", .integer 3, none) ∧
      (FieldSpec.integer "x" 0.0 10.0 5.0).KeepsAsRead (some (.number (.float 2.5))) (.integer 3) ∧
      ¬ (FieldSpec.integer "x" 0.0 10.0 5.0).Keeps (some (.number (.float 2.5))) (.integer 3) := by
  have h : (FieldSpec.integer "x" 0.0 10.0 5.0).repairField [("x", .number (.float 2.5))] =
      some ("x", .integer 3, none) := by rfl
  refine ⟨h, (repairField_reports_changes (by decide +kernel) _ h).2 rfl, ?_⟩
  rintro ⟨m, q, hin, hm, hv⟩
  simp only [Option.some.injEq, Json.number.injEq] at hin
  subst hin
  simp only [FieldValue.exactValue?, Option.some.injEq] at hv
  subst hv
  revert hm
  decide +kernel

end FieldSpec

end CareerInsight
