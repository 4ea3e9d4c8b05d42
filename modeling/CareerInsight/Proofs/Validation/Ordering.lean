import Mathlib
import CareerInsight.Proofs.Validation.Repair
import CareerInsight.Proofs.Binary64.Exact

/-!
# Sorting an ordering group

An ordering group asks that some numeric fields end up non-decreasing in a
listed order.  `Record.reorder` reads the group's numbers, sorts them by the
IEEE total order, and writes each sorted number back to the member at its
position, but only where it differs from the number already there; an
integer member stays an integer, truncated toward zero.

The main statements are about a group whose members all hold values of
one numeric kind within one pair of bounds (`Record.GroupFits`):

* `groupFits_reorder`: after the sort every member still holds such a
  value, so no field leaves its bounds or changes its kind;
* `checkSpec_reorder`: after the sort the group passes its order check;
* `get?_reorder_of_not_mem`: a field outside the group is not touched.

The sort is read as a fold of moves over the record (`reorder_fst`), one
move per member; distinct members make each move the last word on its own
field (`get?_foldl_moveStep_of_mem`).  The numbers written are a
permutation of the numbers read, so in a group whose members hold values
of one kind (`Record.GroupOfKind`) a member either keeps its value
(`get?_reorder_of_beq`) or takes the value of the member whose number is
sorted into its place (`get?_reorder_of_not_beq`): an integer member
receives the number of another integer member, which survives the
truncation (`placedValue_ofKind`).
-/

/-- The sort puts its numbers in the order of their total-order keys: the
keys are integers, so the comparison is total and transitive. -/
theorem Float.pairwise_sortTotal (xs : List Float) :
    (Float.sortTotal xs).Pairwise fun a b => a.totalKey ≤ b.totalKey := by
  have hsort : (Float.sortTotal xs).Pairwise
      (fun a b : Float => decide (a.totalKey ≤ b.totalKey) = true) :=
    List.pairwise_mergeSort (fun a b c hab hbc => by simp only [decide_eq_true_eq] at *; omega)
      (fun a b => by simp only [Bool.or_eq_true, decide_eq_true_eq]; omega) xs
  exact hsort.imp fun h => by simpa using h

namespace CareerInsight

/-! ## Values of one numeric kind -/

namespace FieldValue

/-- A value that a numeric field of a kind can hold after validation: a
float other than NaN, or an integer that some float saturates to. -/
def OfKind : NumericKind → FieldValue → Prop
  | .float, .number x => x.isNaN = false
  | .integer, .integer i => ∃ y : Float, y.toIntSat = i
  | _, _ => False

variable {kind : NumericKind} {v : FieldValue}

/-- A value of a numeric kind reads as a number other than NaN. -/
theorem OfKind.asFloat (h : v.OfKind kind) : ∃ x, v.asFloat? = some x ∧ x.isNaN = false := by
  cases kind <;> cases v <;> simp only [OfKind] at h
  case float.number x => exact ⟨x, rfl, h⟩
  case integer.integer i =>
    obtain ⟨y, rfl⟩ := h
    exact ⟨_, rfl, Float.isNaN_eq_false (Float.ofInt_toIntSat y).1⟩

/-- A value that fits a numeric range is a value of its kind: a finite
float, or a safe integer that its own float saturates to. -/
theorem FitsNumeric.ofKind {lo hi : Int} (h : v.FitsNumeric kind lo hi) : v.OfKind kind := by
  cases v with
  | number x =>
    obtain ⟨rfl, hx, -⟩ := h
    exact Float.isNaN_eq_false hx
  | integer i =>
    obtain ⟨rfl, hi, -⟩ := h
    obtain ⟨hf, hs⟩ := Float.ofInt_spec hi
    exact ⟨Float.ofInt i, Float.toIntSat_eq hf hs (by omega)⟩
  | _ => cases h

end FieldValue

namespace Record

/-! ## The sort as a fold of moves -/

/-- The value `placeSorted` writes over an old one: an integer stays an
integer, truncated toward zero, and anything else becomes the float. -/
def placedValue (old : Option FieldValue) (x : Float) : FieldValue :=
  match old with
  | some (.integer _) => .integer x.toIntSat
  | _ => .number x

theorem placeSorted_eq (r : Record) (f : String) (x : Float) :
    r.placeSorted f x = r.set f (placedValue (r.get? f) x) := by
  unfold placeSorted placedValue
  cases r.get? f with
  | none => rfl
  | some v => cases v <;> rfl

/-- One move of a sort, on the record alone: a member whose value changed
takes its sorted value. -/
def moveStep (r : Record) (m : (String × Float) × Float) : Record :=
  if m.1.2 == m.2 then r else r.placeSorted m.1.1 m.2

/-- The record a sort leaves is the fold of its moves; the repairs it
reports ride along and change nothing. -/
theorem reorder_fst (r : Record) (fields : List String) :
    (r.reorder fields).1 = match fields.mapM r.number? with
      | none => r
      | some values => ((fields.zip values).zip (Float.sortTotal values)).foldl moveStep r := by
  unfold reorder
  cases fields.mapM r.number? with
  | none => rfl
  | some values =>
    dsimp only
    show _ = List.foldl moveStep (r, ([] : List Repair)).1 _
    generalize (fields.zip values).zip (Float.sortTotal values) = ms
    generalize (r, ([] : List Repair)) = acc
    induction ms generalizing acc with
    | nil => rfl
    | cons m ms ih =>
      rw [List.foldl_cons, List.foldl_cons, ih]
      unfold moveStep
      split <;> rfl

theorem domain_foldl_moveStep (ms : List ((String × Float) × Float)) (r : Record) :
    (ms.foldl moveStep r).domain = r.domain := by
  induction ms generalizing r with
  | nil => rfl
  | cons m ms ih =>
    rw [List.foldl_cons, ih]
    unfold moveStep
    split
    · rfl
    · rw [placeSorted_eq, domain_set]

/-- The moves of a sort leave every field they do not name alone. -/
theorem get?_foldl_moveStep_of_not_mem (ms : List ((String × Float) × Float)) (r : Record)
    {g : String} (hg : g ∉ ms.map (·.1.1)) : (ms.foldl moveStep r).get? g = r.get? g := by
  induction ms generalizing r with
  | nil => rfl
  | cons m ms ih =>
    simp only [List.map_cons, List.mem_cons, not_or] at hg
    rw [List.foldl_cons, ih _ hg.2]
    unfold moveStep
    split
    · rfl
    · rw [placeSorted_eq, get?_set, if_neg (Ne.symm hg.1)]

/-- A field named once among the moves ends with its own move's value. -/
theorem get?_foldl_moveStep_of_mem (ms : List ((String × Float) × Float))
    (hnd : (ms.map (·.1.1)).Nodup) (r : Record) {f : String} {b a : Float}
    (hm : ((f, b), a) ∈ ms) :
    (ms.foldl moveStep r).get? f = if b == a then r.get? f else some (placedValue (r.get? f) a) := by
  induction ms generalizing r with
  | nil => cases hm
  | cons m ms ih =>
    obtain ⟨⟨f₀, b₀⟩, a₀⟩ := m
    rw [List.map_cons, List.nodup_cons] at hnd
    dsimp only at hnd
    rw [List.foldl_cons]
    rcases List.mem_cons.1 hm with h | hm'
    · simp only [Prod.mk.injEq] at h
      obtain ⟨⟨rfl, rfl⟩, rfl⟩ := h
      rw [get?_foldl_moveStep_of_not_mem ms _ hnd.1]
      unfold moveStep
      dsimp only
      split
      · rfl
      · rw [placeSorted_eq, get?_set, if_pos rfl]
    · have hne : f₀ ≠ f := fun h => hnd.1 (by rw [h]; exact List.mem_map_of_mem (f := fun x => x.1.1) hm')
      have hstep : (moveStep r ((f₀, b₀), a₀)).get? f = r.get? f := by
        unfold moveStep
        split
        · rfl
        · rw [placeSorted_eq, get?_set, if_neg hne]
      rw [ih hnd.2 _ hm', hstep]

/-- A sort changes nothing outside its group. -/
theorem get?_reorder_of_not_mem (r : Record) {fields : List String} {g : String}
    (hg : g ∉ fields) : (r.reorder fields).1.get? g = r.get? g := by
  rw [reorder_fst]
  split
  · rfl
  · next values _ =>
    apply get?_foldl_moveStep_of_not_mem
    intro hmem
    obtain ⟨⟨⟨f, b⟩, a⟩, hm, rfl⟩ := List.mem_map.1 hmem
    exact hg (List.of_mem_zip (List.of_mem_zip hm).1).1

theorem domain_reorder (r : Record) (fields : List String) : (r.reorder fields).1.domain = r.domain := by
  rw [reorder_fst]
  split
  · rfl
  · exact domain_foldl_moveStep _ _

/-- The number a record holds in a field, or `0.0` where it holds none. -/
def numberOf (r : Record) (f : String) : Float := (r.number? f).getD 0.0

theorem number?_eq_numberOf {r : Record} {f : String} (h : (r.number? f).isSome) :
    r.number? f = some (r.numberOf f) := by
  unfold numberOf
  cases hn : r.number? f with
  | none => rw [hn] at h; cases h
  | some y => rfl

theorem mapM_number? {r : Record} {fields : List String} (h : ∀ f ∈ fields, (r.number? f).isSome) :
    fields.mapM r.number? = some (fields.map r.numberOf) := by
  induction fields with
  | nil => rfl
  | cons f fields ih =>
    rw [List.mapM_cons, number?_eq_numberOf (h f (List.mem_cons_self ..)),
      ih fun g hg => h g (List.mem_cons_of_mem _ hg)]
    rfl

theorem groupValues_eq {r : Record} {fields : List String} (h : ∀ f ∈ fields, (r.number? f).isSome) :
    r.groupValues fields = .ok (fields.map r.numberOf) := by
  induction fields with
  | nil => rfl
  | cons f fields ih =>
    rw [groupValues, number?_eq_numberOf (h f (List.mem_cons_self ..)),
      ih fun g hg => h g (List.mem_cons_of_mem _ hg)]
    rfl

/-- The moves of a sort whose members all hold numbers: each member with its
number, beside the sorted numbers. -/
def sortMoves (r : Record) (fields : List String) : List ((String × Float) × Float) :=
  (fields.map fun f => (f, r.numberOf f)).zip (Float.sortTotal (fields.map r.numberOf))

theorem zip_map_self {α β : Type} (l : List α) (g : α → β) :
    l.zip (l.map g) = l.map fun a => (a, g a) := by
  induction l with
  | nil => rfl
  | cons a l ih => simp [ih]

theorem reorder_fst_of_numbers {r : Record} {fields : List String}
    (h : ∀ f ∈ fields, (r.number? f).isSome) :
    (r.reorder fields).1 = (r.sortMoves fields).foldl moveStep r := by
  rw [reorder_fst, mapM_number? h]
  dsimp only
  rw [zip_map_self]
  rfl

theorem length_sortTotal (xs : List Float) : (Float.sortTotal xs).length = xs.length :=
  List.length_mergeSort _

theorem sortMoves_fst (r : Record) (fields : List String) :
    (r.sortMoves fields).map (·.1.1) = fields := by
  unfold sortMoves
  show List.map (Prod.fst ∘ Prod.fst) _ = _
  rw [← List.map_map, List.map_fst_zip (by simp [length_sortTotal]), List.map_map]
  exact List.map_id' fields

theorem sortMoves_snd (r : Record) (fields : List String) :
    (r.sortMoves fields).map (·.2) = Float.sortTotal (fields.map r.numberOf) := by
  unfold sortMoves
  exact List.map_snd_zip (by simp [length_sortTotal])

theorem mem_sortMoves {r : Record} {fields : List String} {f : String} {b a : Float}
    (hm : ((f, b), a) ∈ r.sortMoves fields) :
    f ∈ fields ∧ b = r.numberOf f ∧ ∃ g ∈ fields, r.numberOf g = a := by
  obtain ⟨h₁, h₂⟩ := List.of_mem_zip hm
  obtain ⟨f', hf', he⟩ := List.mem_map.1 h₁
  simp only [Prod.mk.injEq] at he
  obtain ⟨rfl, rfl⟩ := he
  have ha := (List.mergeSort_perm _ _).mem_iff.1 h₂
  obtain ⟨g, hg, rfl⟩ := List.mem_map.1 ha
  exact ⟨hf', rfl, g, hg, rfl⟩

/-! ## Values of a sorted group -/

theorem number?_of_get? {r : Record} {f : String} {v : FieldValue} (hv : r.get? f = some v) :
    r.number? f = v.asFloat? := by
  simp [number?, hv]

theorem numberOf_of_get? {r : Record} {f : String} {w : FieldValue} {x : Float}
    (hw : r.get? f = some w) (hx : w.asFloat? = some x) : r.numberOf f = x := by
  simp [numberOf, number?_of_get? hw, hx]

theorem numberOf_congr {r r' : Record} {f g : String} (h : r'.get? f = r.get? g) :
    r'.numberOf f = r.numberOf g := by
  simp only [numberOf, number?, h]

theorem nodup_sortMoves_fst {r : Record} {fields : List String} (hnd : fields.Nodup) :
    ((r.sortMoves fields).map (·.1.1)).Nodup := by
  rw [sortMoves_fst]
  exact hnd

theorem mem_sortMoves_of_mem {r : Record} {fields : List String} {f : String} (hf : f ∈ fields) :
    ∃ b a, ((f, b), a) ∈ r.sortMoves fields := by
  rw [← sortMoves_fst r fields] at hf
  obtain ⟨⟨⟨f', b⟩, a⟩, hm, rfl⟩ := List.mem_map.1 hf
  exact ⟨b, a, hm⟩

/-- Writing the number of a member of one kind over another member of that
kind gives back the first member's value: a float is kept, and an integer
that a float saturates to survives the round trip through its float. -/
theorem placedValue_ofKind {kind : NumericKind} {old w : FieldValue} {a : Float}
    (hold : old.OfKind kind) (hw : w.OfKind kind) (ha : w.asFloat? = some a) :
    placedValue (some old) a = w := by
  cases kind <;> cases old <;> cases w <;>
    simp only [FieldValue.OfKind] at hold hw <;>
    simp only [FieldValue.asFloat?, Option.some.injEq] at ha
  case float.number.number x y =>
    subst ha
    rfl
  case integer.integer.integer i j =>
    obtain ⟨y, rfl⟩ := hw
    subst ha
    obtain ⟨hf, q, hq, hclamp⟩ := Float.ofInt_toIntSat y
    rw [placedValue, Float.toIntSat_of_scaled hf hq, hclamp]

section OfKind

variable {r : Record} {fields : List String} {kind : NumericKind}

/-- Every member of a group holds a value of one numeric kind. -/
def GroupOfKind (r : Record) (fields : List String) (kind : NumericKind) : Prop :=
  ∀ f ∈ fields, ∃ w, r.get? f = some w ∧ w.OfKind kind

theorem numbers_of_groupOfKind (h : GroupOfKind r fields kind) :
    ∀ f ∈ fields, (r.number? f).isSome := by
  intro f hf
  obtain ⟨w, hw, hk⟩ := h f hf
  obtain ⟨x, hx, -⟩ := hk.asFloat
  rw [number?_of_get? hw, hx]
  rfl

theorem isNaN_numberOf (h : GroupOfKind r fields kind) {f : String} (hf : f ∈ fields) :
    (r.numberOf f).isNaN = false := by
  obtain ⟨w, hw, hk⟩ := h f hf
  obtain ⟨x, hx, hn⟩ := hk.asFloat
  rw [numberOf_of_get? hw hx]
  exact hn

variable (hnd : fields.Nodup) (h : GroupOfKind r fields kind)
include hnd h

/-- A member whose number is, by `==`, the sorted number of its position
keeps its value. -/
theorem get?_reorder_of_beq {f : String} {b a : Float} (hm : ((f, b), a) ∈ r.sortMoves fields)
    (hba : (b == a) = true) : (r.reorder fields).1.get? f = r.get? f := by
  rw [reorder_fst_of_numbers (numbers_of_groupOfKind h),
    get?_foldl_moveStep_of_mem _ (nodup_sortMoves_fst hnd) r hm, if_pos hba]

/-- A member whose number is not the sorted number of its position takes
the value of the member whose number that is. -/
theorem get?_reorder_of_not_beq {f : String} {b a : Float} (hm : ((f, b), a) ∈ r.sortMoves fields)
    (hba : (b == a) = false) :
    ∃ g ∈ fields, (r.reorder fields).1.get? f = r.get? g ∧ r.numberOf g = a := by
  obtain ⟨hf, -, g, hg, rfl⟩ := mem_sortMoves hm
  obtain ⟨old, hold, hkold⟩ := h f hf
  obtain ⟨w, hw, hkw⟩ := h g hg
  obtain ⟨x, hx, -⟩ := hkw.asFloat
  refine ⟨g, hg, ?_, rfl⟩
  rw [reorder_fst_of_numbers (numbers_of_groupOfKind h),
    get?_foldl_moveStep_of_mem _ (nodup_sortMoves_fst hnd) r hm,
    if_neg (Bool.eq_false_iff.1 hba), hold, hw, numberOf_of_get? hw hx,
    placedValue_ofKind hkold hkw hx]

/-- After the sort every member still holds a value of the group's kind. -/
theorem groupOfKind_reorder : GroupOfKind (r.reorder fields).1 fields kind := by
  intro f hf
  obtain ⟨b, a, hm⟩ := mem_sortMoves_of_mem hf
  cases hba : b == a
  · obtain ⟨g, hg, hget, -⟩ := get?_reorder_of_not_beq hnd h hm hba
    rw [hget]
    exact h g hg
  · rw [get?_reorder_of_beq hnd h hm hba]
    exact h f hf

end OfKind

section Group

variable {kind : NumericKind} {lo hi : Int} {r : Record} {fields : List String}

/-- Every member of the group holds a value that fits the group's kind and bounds. -/
def GroupFits (r : Record) (fields : List String) (kind : NumericKind) (lo hi : Int) : Prop :=
  ∀ f ∈ fields, ∃ v, r.get? f = some v ∧ v.FitsNumeric kind lo hi

theorem groupOfKind_of_groupFits (h : GroupFits r fields kind lo hi) : GroupOfKind r fields kind :=
  fun f hf => (h f hf).imp fun _ hv => ⟨hv.1, hv.2.ofKind⟩

theorem numbers_of_groupFits (h : GroupFits r fields kind lo hi) :
    ∀ f ∈ fields, (r.number? f).isSome :=
  numbers_of_groupOfKind (groupOfKind_of_groupFits h)

/-- After the sort, a member holds a value of the group's kind and bounds
whose number is the sorted number of its position.  A member either takes the
value of the member whose number is sorted at its position, or already holds a
number equal to that one. -/
theorem get?_reorder_of_sortMoves (hnd : fields.Nodup) (hfit : GroupFits r fields kind lo hi)
    {f : String} {b a : Float} (hm : ((f, b), a) ∈ r.sortMoves fields) :
    ∃ v, (r.reorder fields).1.get? f = some v ∧ v.FitsNumeric kind lo hi ∧
      ∃ y, v.asFloat? = some y ∧ y.isFinite = true ∧ y.scaled = a.scaled := by
  have hk := groupOfKind_of_groupFits hfit
  obtain ⟨hf, rfl, g, hg, rfl⟩ := mem_sortMoves hm
  cases hba : r.numberOf f == r.numberOf g
  · obtain ⟨g', hg', hget, hga⟩ := get?_reorder_of_not_beq hnd hk hm hba
    obtain ⟨w, hw, hfw⟩ := hfit g' hg'
    obtain ⟨y, hy, hyf, -⟩ := hfw.asFloat
    refine ⟨w, hget.trans hw, hfw, y, hy, hyf, ?_⟩
    rw [← hga, numberOf_of_get? hw hy]
  · obtain ⟨old, hold, hfold⟩ := hfit f hf
    obtain ⟨y₁, hy₁, hf₁, -⟩ := hfold.asFloat
    obtain ⟨w, hw, hfw⟩ := hfit g hg
    obtain ⟨y₂, hy₂, hf₂, -⟩ := hfw.asFloat
    refine ⟨old, (get?_reorder_of_beq hnd hk hm hba).trans hold, hfold, y₁, hy₁, hf₁, ?_⟩
    rw [numberOf_of_get? hold hy₁, numberOf_of_get? hw hy₂] at hba
    rw [numberOf_of_get? hw hy₂]
    exact (Float.beq_iff_scaled hf₁ hf₂).1 hba

/-- Sorting keeps every member within the group's kind and bounds. -/
theorem groupFits_reorder (hnd : fields.Nodup) (hfit : GroupFits r fields kind lo hi) :
    GroupFits (r.reorder fields).1 fields kind lo hi := by
  intro f hf
  obtain ⟨b, a, hm⟩ := mem_sortMoves_of_mem hf
  obtain ⟨v, hv, hfv, -⟩ := get?_reorder_of_sortMoves hnd hfit hm
  exact ⟨v, hv, hfv⟩

/-- Finite floats whose values never descend pass the order check. -/
theorem nonDecreasing_of_pairwise {xs : List Float} (hfin : ∀ x ∈ xs, x.isFinite = true)
    (h : xs.Pairwise fun a b => a.scaled ≤ b.scaled) : nonDecreasing xs = true := by
  induction xs with
  | nil => rfl
  | cons a rest ih =>
    cases rest with
    | nil => rfl
    | cons b rest =>
      have hab : a.scaled ≤ b.scaled := List.rel_of_pairwise_cons h (List.mem_cons_self ..)
      have hnlt : ¬ b < a := by
        rw [Float.lt_iff_scaled (hfin b (by simp)) (hfin a (by simp))]
        omega
      simp only [nonDecreasing, Bool.and_eq_true, Bool.not_eq_true']
      exact ⟨decide_eq_false hnlt, ih (fun x hx => hfin x (List.mem_cons_of_mem _ hx))
        (List.Pairwise.of_cons h)⟩

/-- The sorted numbers come in the IEEE total order. -/
theorem sortMoves_pairwise :
    (r.sortMoves fields).Pairwise fun t t' => t.2.totalKey ≤ t'.2.totalKey := by
  have hsort := Float.pairwise_sortTotal (fields.map r.numberOf)
  rw [← sortMoves_snd, List.pairwise_map] at hsort
  exact hsort

/-- The sorted numbers of a group that fits a range are finite. -/
theorem isFinite_of_mem_sortMoves (hfit : GroupFits r fields kind lo hi) :
    ∀ t ∈ r.sortMoves fields, t.2.isFinite = true := by
  rintro ⟨⟨f, b⟩, a⟩ hm
  obtain ⟨-, -, g, hg, rfl⟩ := mem_sortMoves hm
  obtain ⟨w, hw, hfw⟩ := hfit g hg
  obtain ⟨y, hy, hyf, -⟩ := FieldValue.FitsNumeric.asFloat hfw
  have : r.numberOf g = y := by simp [numberOf, number?_of_get? hw, hy]
  exact this ▸ hyf

/-- After the sort, the group's numbers never descend.  On finite numbers the
total order agrees with the order of values. -/
theorem checkSpec_reorder (hnd : fields.Nodup) (hfit : GroupFits r fields kind lo hi) :
    (r.reorder fields).1.checkSpec (.ordering fields) = .ok () := by
  have hpos : ∀ t ∈ r.sortMoves fields,
      ((r.reorder fields).1.numberOf t.1.1).isFinite = true ∧
        ((r.reorder fields).1.numberOf t.1.1).scaled = t.2.scaled := by
    rintro ⟨⟨f, b⟩, a⟩ hm
    obtain ⟨v, hv, -, y, hy, hyf, hys⟩ := get?_reorder_of_sortMoves hnd hfit hm
    have : (r.reorder fields).1.numberOf f = y := by simp [numberOf, number?_of_get? hv, hy]
    exact ⟨this ▸ hyf, this ▸ hys⟩
  have hsortFin := isFinite_of_mem_sortMoves hfit
  have hnums : (r.reorder fields).1.groupValues fields =
      .ok (fields.map (r.reorder fields).1.numberOf) :=
    groupValues_eq (numbers_of_groupFits (groupFits_reorder hnd hfit))
  have hmono : nonDecreasing (fields.map (r.reorder fields).1.numberOf) = true := by
    generalize (r.reorder fields).1 = r' at hpos
    rw [← sortMoves_fst r fields, List.map_map]
    apply nonDecreasing_of_pairwise
    · intro x hx
      obtain ⟨t, ht, rfl⟩ := List.mem_map.1 hx
      exact (hpos t ht).1
    · rw [List.pairwise_map]
      refine sortMoves_pairwise.imp_of_mem fun {t t'} ht ht' hle => ?_
      simp only [Function.comp, (hpos t ht).2, (hpos t' ht').2]
      exact Float.scaled_le_of_totalKey_le (hsortFin t ht) (hsortFin t' ht') hle
  rw [checkSpec, hnums]
  show (if nonDecreasing _ = true then _ else _) = _
  rw [if_pos hmono]

end Group

end Record

end CareerInsight
