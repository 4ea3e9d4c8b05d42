import Mathlib
import CareerInsight.Proofs.Binary64.Extended
import CareerInsight.Proofs.Validation.Revalidate

/-!
# The ordering phase sorts every group on its own

After the field phase, `validate` runs the ordering groups one after another
over one record.  A group reads its members' numbers, sorts them in the IEEE
total order and writes back the positions whose number changed.  Nothing
stops two groups from sharing a field, and then a later group can undo an
earlier one's order.  This module gives the conditions under which every
group is sorted on its own (`SortableGroups`) and what the phase then does:

* `foldl_applyOrdering_groups`: with no field in two groups, each group acts
  on the record as the field phase left it, and the repairs of the phase are
  those of the groups, one after another.  The step is a framing fact: a sort
  reads and writes only its own members (`reorder_congr`).
* For one group whose members hold values of one numeric kind
  (`GroupOfKind`), a member either keeps its value or takes the value of
  another member (`Validation.Ordering`), so the group's new numbers agree
  with the sorted old ones position by position (`forall₂_beq_reorder`) and
  never descend (`pairwise_le_reorder`), and a member is reported exactly
  when its value changed (`mem_reorder_snd_iff`).
* `validate_sorts_groups`: after validation every group is sorted, holds a
  permutation of the numbers the field phase stored for it (up to `==`, so
  `0.0` and `-0.0` count as equal), a reordering is reported exactly for the
  members whose value changed, and no other field is touched by the phase.

Values are compared through `Float.extValue`, so infinite bounds and
defaults are allowed; a NaN default is not, since NaN compares as nothing.
-/

namespace CareerInsight

namespace Record

/-! ## A sort reads and writes only its own members -/

theorem mapM_number?_congr {r r' : Record} {fields : List String}
    (h : ∀ g ∈ fields, r'.get? g = r.get? g) : fields.mapM r'.number? = fields.mapM r.number? := by
  induction fields with
  | nil => rfl
  | cons f fields ih =>
    have hf : r'.number? f = r.number? f := by simp only [number?, h f List.mem_cons_self]
    rw [List.mapM_cons, List.mapM_cons, hf, ih fun g hg => h g (List.mem_cons_of_mem f hg)]

/-- The moves of a sort write a field from that field's old value alone. -/
theorem get?_foldl_moveStep_congr (ms : List ((String × Float) × Float)) {r r' : Record} {f : String}
    (h : r'.get? f = r.get? f) : (ms.foldl moveStep r').get? f = (ms.foldl moveStep r).get? f := by
  induction ms generalizing r r' with
  | nil => exact h
  | cons m ms ih =>
    apply ih
    unfold moveStep
    split
    · exact h
    · rw [placeSorted_eq, placeSorted_eq, get?_set, get?_set]
      split
      · next hmf => rw [hmf, h]
      · exact h

/-- The repairs of a sort: one for each member whose number moved.  The
repairs ride along the fold, and the record does not affect them. -/
theorem reorder_snd (r : Record) (fields : List String) :
    (r.reorder fields).2 = ((fields.mapM r.number?).map fun values =>
      ((fields.zip values).zip (Float.sortTotal values)).filterMap fun m =>
        if m.1.2 == m.2 then none else some ⟨m.1.1, .reordered⟩).getD [] := by
  unfold reorder
  cases fields.mapM r.number? with
  | none => rfl
  | some values =>
    dsimp only [Option.map_some, Option.getD_some]
    generalize (fields.zip values).zip (Float.sortTotal values) = ms
    suffices ∀ acc : Record × List Repair, (ms.foldl (fun (acc : Record × List Repair) m =>
        if m.1.2 == m.2 then acc
          else (acc.1.placeSorted m.1.1 m.2, acc.2 ++ [⟨m.1.1, .reordered⟩])) acc).2 =
        acc.2 ++ ms.filterMap fun m => if m.1.2 == m.2 then none else some ⟨m.1.1, .reordered⟩ by
      simpa using this (r, [])
    induction ms with
    | nil => simp
    | cons m ms ih =>
      intro acc
      obtain ⟨⟨f, b⟩, a⟩ := m
      rw [List.foldl_cons, ih, List.filterMap_cons]
      dsimp only
      split <;> simp

/-- A sort depends only on its members' values: two records that agree on
the members give the same repairs and the same new member values. -/
theorem reorder_congr {r r' : Record} {fields : List String}
    (h : ∀ g ∈ fields, r'.get? g = r.get? g) :
    (r'.reorder fields).2 = (r.reorder fields).2 ∧
      ∀ f ∈ fields, (r'.reorder fields).1.get? f = (r.reorder fields).1.get? f := by
  refine ⟨by rw [reorder_snd, reorder_snd, mapM_number?_congr h], fun f hf => ?_⟩
  rw [reorder_fst, reorder_fst, mapM_number?_congr h]
  split
  · exact h f hf
  · exact get?_foldl_moveStep_congr _ (h f hf)

/-- The repairs of a sort whose members all hold numbers, one per move. -/
theorem reorder_snd_of_numbers {r : Record} {fields : List String}
    (h : ∀ f ∈ fields, (r.number? f).isSome) :
    (r.reorder fields).2 = (r.sortMoves fields).filterMap fun m =>
      if m.1.2 == m.2 then none else some ⟨m.1.1, .reordered⟩ := by
  rw [reorder_snd, mapM_number? h, Option.map_some, Option.getD_some, zip_map_self]
  rfl

/-- The numbers of a group's members, read in any record, in the order of
the moves of a sort. -/
theorem map_numberOf_sortMoves (r r' : Record) (fields : List String) :
    fields.map r'.numberOf = (r.sortMoves fields).map fun t => r'.numberOf t.1.1 := by
  conv_lhs => rw [← sortMoves_fst r fields]
  rw [List.map_map]
  rfl

/-! ## The numbers of a sorted group -/

section Group

variable {r : Record} {fields : List String} {kind : NumericKind}

theorem isNaN_of_mem_sortMoves (h : GroupOfKind r fields kind) :
    ∀ t ∈ r.sortMoves fields, t.2.isNaN = false := by
  rintro ⟨⟨f, b⟩, a⟩ hm
  obtain ⟨-, -, g, hg, rfl⟩ := mem_sortMoves hm
  exact isNaN_numberOf h hg

variable (hnd : fields.Nodup) (h : GroupOfKind r fields kind)
include hnd h

/-- After the sort a member's number has the extended value of the sorted
number of its position. -/
theorem extValue_numberOf_reorder {f : String} {b a : Float} (hm : ((f, b), a) ∈ r.sortMoves fields) :
    ((r.reorder fields).1.numberOf f).extValue = a.extValue := by
  obtain ⟨hf, rfl, g₀, hg₀, rfl⟩ := mem_sortMoves hm
  have hnan := isNaN_numberOf (groupOfKind_reorder hnd h) hf
  apply (Float.beq_iff_extValue hnan (isNaN_numberOf h hg₀)).1
  cases hba : r.numberOf f == r.numberOf g₀
  · obtain ⟨g, hg, hget, hga⟩ := get?_reorder_of_not_beq hnd h hm hba
    rw [numberOf_congr hget, hga]
    exact Float.beq_self (isNaN_numberOf h hg₀)
  · rw [numberOf_congr (get?_reorder_of_beq hnd h hm hba)]
    exact hba

/-- After the sort the group's numbers agree, position by position and up
to `==`, with the sorted numbers the group held before. -/
theorem forall₂_beq_reorder :
    List.Forall₂ (fun y z => (y == z) = true) (fields.map (r.reorder fields).1.numberOf)
      (Float.sortTotal (fields.map r.numberOf)) := by
  rw [map_numberOf_sortMoves r, ← sortMoves_snd, List.forall₂_map_left_iff,
    List.forall₂_map_right_iff, List.forall₂_same]
  rintro ⟨⟨f, b⟩, a⟩ hm
  obtain ⟨hf, -, -⟩ := mem_sortMoves hm
  exact (Float.beq_iff_extValue (isNaN_numberOf (groupOfKind_reorder hnd h) hf)
    (isNaN_of_mem_sortMoves h _ hm)).2 (extValue_numberOf_reorder hnd h hm)

/-- After the sort the group's numbers never descend: the total order of
the sorted numbers is the order of their extended values. -/
theorem pairwise_le_reorder : (fields.map (r.reorder fields).1.numberOf).Pairwise (· ≤ ·) := by
  have hnan : ∀ t ∈ r.sortMoves fields, ((r.reorder fields).1.numberOf t.1.1).isNaN = false :=
    fun t ht => isNaN_numberOf (groupOfKind_reorder hnd h) (mem_sortMoves ht).1
  rw [map_numberOf_sortMoves r, List.pairwise_map]
  refine sortMoves_pairwise.imp_of_mem fun {t t'} ht ht' hle => ?_
  rw [Float.le_iff_extValue (hnan t ht) (hnan t' ht'), extValue_numberOf_reorder hnd h ht,
    extValue_numberOf_reorder hnd h ht']
  exact Float.extValue_le_of_totalKey_le (isNaN_of_mem_sortMoves h t ht)
    (isNaN_of_mem_sortMoves h t' ht') hle

/-- A member's value changes exactly when its number is not the sorted
number of its position. -/
theorem get?_reorder_ne_iff {f : String} {b a : Float} (hm : ((f, b), a) ∈ r.sortMoves fields) :
    (r.reorder fields).1.get? f ≠ r.get? f ↔ (b == a) = false := by
  constructor
  · intro hne
    cases hba : b == a
    · rfl
    · exact absurd (get?_reorder_of_beq hnd h hm hba) hne
  · intro hba heq
    obtain ⟨g, hg, hget, hga⟩ := get?_reorder_of_not_beq hnd h hm hba
    obtain ⟨hf, rfl, -⟩ := mem_sortMoves hm
    have hfg : r.numberOf f = a := by rw [← hga]; exact numberOf_congr (heq.symm.trans hget)
    rw [hfg, Float.beq_self (hga ▸ isNaN_numberOf h hg)] at hba
    cases hba

/-- A sort reports a member exactly when its value changed. -/
theorem mem_reorder_snd_iff (f : String) :
    ⟨f, .reordered⟩ ∈ (r.reorder fields).2 ↔
      f ∈ fields ∧ (r.reorder fields).1.get? f ≠ r.get? f := by
  rw [reorder_snd_of_numbers (numbers_of_groupOfKind h), List.mem_filterMap]
  constructor
  · rintro ⟨⟨⟨g, b⟩, a⟩, hm, hrep⟩
    cases hba : b == a
    · simp only [hba, Bool.false_eq_true, ↓reduceIte, Option.some.injEq, Repair.mk.injEq] at hrep
      obtain ⟨rfl, -⟩ := hrep
      exact ⟨(mem_sortMoves hm).1, (get?_reorder_ne_iff hnd h hm).2 hba⟩
    · simp [hba] at hrep
  · rintro ⟨hf, hne⟩
    obtain ⟨b, a, hm⟩ := mem_sortMoves_of_mem hf
    refine ⟨_, hm, ?_⟩
    simp [(get?_reorder_ne_iff hnd h hm).1 hne]

end Group

end Record

/-! ## The field phase reports no reordering -/

namespace Payload

theorem number?_ne_reordered (input : Option Json) : number? input ≠ .error .reordered := by
  unfold number?
  split <;> simp

theorem numericRepair_ne_reordered (input : Option Json) (c : Float) :
    numericRepair input c ≠ some .reordered := by
  unfold numericRepair
  split
  · next k hk => exact fun h => number?_ne_reordered input (by rw [hk, Option.some.inj h])
  · split_ifs <;> simp

theorem floorRepair_ne_reordered (input : Option Json) (k : Int) :
    floorRepair input k ≠ some .reordered := by
  unfold floorRepair
  split
  · next k hk => exact fun h => number?_ne_reordered input (by rw [hk, Option.some.inj h])
  · split_ifs <;> simp

theorem labelRepair_ne_reordered (input : Option Json) (label : String) :
    labelRepair input label ≠ some .reordered := by
  unfold labelRepair
  split <;> (try split_ifs) <;> simp

theorem textRepair_ne_reordered (input : Option Json) : textRepair input ≠ some .reordered := by
  unfold textRepair
  split <;> (try split_ifs) <;> simp

theorem textListRepair_ne_reordered (input : Option Json) (maxItems : Nat) :
    textListRepair input maxItems ≠ some .reordered := by
  unfold textListRepair
  split
  · dsimp only
    split_ifs <;> simp
  all_goals simp

theorem nestedRepair_ne_reordered (input : Option Json) (shape : NestedShape) :
    nestedRepair input shape ≠ some .reordered := by
  unfold nestedRepair
  split <;> (try split_ifs) <;> simp

end Payload

/-- The field phase never reports a reordering: no field constraint's
repair is one. -/
theorem FieldSpec.repairField_ne_reordered {spec : FieldSpec} {raw : Json.Fields} {f : String}
    {v : FieldValue} {k : RepairKind} (h : spec.repairField raw = some (f, v, some k)) :
    k ≠ .reordered := by
  rintro rfl
  cases spec <;> simp only [FieldSpec.repairField, Option.some.injEq, Prod.mk.injEq,
    reduceCtorEq] at h <;> obtain ⟨-, -, h⟩ := h
  case numeric => exact Payload.numericRepair_ne_reordered _ _ h
  case choice => exact Payload.labelRepair_ne_reordered _ _ h
  case text => exact Payload.textRepair_ne_reordered _ h
  case textList => exact Payload.textListRepair_ne_reordered _ _ h
  case cohortFloor => exact Payload.floorRepair_ne_reordered _ _ h
  case nested => exact Payload.nestedRepair_ne_reordered _ _ h

/-! ## The ordering phase, group by group -/

namespace Validation

/-- Every constraint acts in the ordering phase as a sort of its members;
a field constraint has none, and sorting nothing changes nothing. -/
theorem applyOrdering_eq (v : Validation) (spec : FieldSpec) :
    v.applyOrdering spec =
      ⟨(v.record.reorder spec.members).1, v.repairs ++ (v.record.reorder spec.members).2⟩ := by
  cases spec
  case ordering fields => rfl
  all_goals simp [applyOrdering, FieldSpec.members, Record.reorder]

/-- With no field in two groups, each group of the ordering phase sorts the
record as the phase found it, and the phase reports the groups' repairs one
group after another.  The groups after a group share no member with it, so it
leaves them as they were. -/
theorem foldl_applyOrdering_groups (specs : List FieldSpec) (v : Validation)
    (hnd : (specs.flatMap FieldSpec.members).Nodup) :
    (specs.foldl applyOrdering v).repairs =
        v.repairs ++ specs.flatMap (fun s => (v.record.reorder s.members).2) ∧
      ∀ s ∈ specs, ∀ f ∈ s.members,
        (specs.foldl applyOrdering v).record.get? f = (v.record.reorder s.members).1.get? f := by
  induction specs generalizing v with
  | nil => simp
  | cons s specs ih =>
    rw [List.flatMap_cons, List.nodup_append] at hnd
    obtain ⟨-, hrest, hdisj⟩ := hnd
    have hagree : ∀ t ∈ specs, ∀ g ∈ t.members,
        (v.record.reorder s.members).1.get? g = v.record.get? g := fun t ht g hg =>
      Record.get?_reorder_of_not_mem _ fun hgs => hdisj g hgs g (List.mem_flatMap.2 ⟨t, ht, hg⟩) rfl
    obtain ⟨ihr, ihg⟩ := ih (v.applyOrdering s) hrest
    refine ⟨?_, fun t ht f hf => ?_⟩
    · rw [List.foldl_cons, ihr, applyOrdering_eq, List.flatMap_cons, List.append_assoc]
      congr 2
      exact List.flatMap_congr fun t ht => (Record.reorder_congr (hagree t ht)).1
    · rw [List.foldl_cons]
      rcases List.mem_cons.1 ht with rfl | ht
      · rw [get?_foldl_applyOrdering_of_not_mem _ _ fun h => hdisj f hf f h rfl, applyOrdering_eq]
      · rw [ihg t ht f hf, applyOrdering_eq]
        exact (Record.reorder_congr (hagree t ht)).2 f hf

/-- The field phase never reports a reordering. -/
theorem not_mem_repairs_foldl_applyField (raw : Json.Fields) (specs : List FieldSpec) (domain : Domain)
    (f : String) :
    ⟨f, .reordered⟩ ∉ (specs.foldl (applyField raw) ⟨Record.empty domain, []⟩).repairs := by
  rw [repairs_foldl_applyField, List.nil_append, List.mem_filterMap]
  rintro ⟨s, -, hs⟩
  obtain ⟨⟨g, w, rep⟩, hrep, hk⟩ := Option.bind_eq_some_iff.1 hs
  obtain ⟨k, rfl, hk⟩ := Option.map_eq_some_iff.1 hk
  simp only [Repair.mk.injEq] at hk
  exact FieldSpec.repairField_ne_reordered hrep hk.2

end Validation

/-! ## Constraints whose groups sort on their own -/

namespace Payload

/-- A clamped payload number is a number when the default is one. -/
theorem isNaN_clampNumeric (input : Option Json) (lo hi : Float) {d : Float} (hd : d.isNaN = false) :
    (clampNumeric input lo hi d).isNaN = false := by
  unfold clampNumeric clampFloat
  split
  · split
    · next hfin => exact Float.isNaN_maxNum _ (Float.isNaN_minNum (Float.isNaN_eq_false hfin) _)
    · exact hd
  · exact hd

end Payload

/-- The conditions under which the ordering phase sorts every group on its
own: no field has two owners, no field is in two groups or twice in one,
and the members of a group are owned by numeric constraints of one kind
whose defaults are numbers.  Bounds may differ and may be infinite. -/
structure SortableGroups (specs : List FieldSpec) : Prop where
  owners_nodup : (specs.filterMap FieldSpec.owner?).Nodup
  members_nodup : (specs.flatMap FieldSpec.members).Nodup
  members_numeric : ∀ fields, .ordering fields ∈ specs → ∃ kind : NumericKind,
    ∀ f ∈ fields, ∃ lo hi d, .numeric f lo hi d kind ∈ specs ∧ d.isNaN = false

/-- A well-formed policy's constraints sort their groups on their own: its
defaults lie between finite bounds, so none is NaN. -/
theorem Policy.WellFormed.sortableGroups {p : Policy} (hwf : p.WellFormed) :
    SortableGroups p.fields where
  owners_nodup := hwf.owners_nodup
  members_nodup := hwf.members_nodup
  members_numeric := by
    intro fields hs
    cases fields with
    | nil => exact ⟨.float, fun f hf => by cases hf⟩
    | cons f₀ rest =>
      obtain ⟨kind, lo, hi, hrange⟩ := hwf.exists_groupRange hs List.mem_cons_self
      refine ⟨kind, fun g hg => ?_⟩
      obtain ⟨lo', hi', d, hspec, -, -⟩ := hrange g hg
      have hmem := (Policy.mem_of_specFor? hspec).1
      obtain ⟨hlo, hhi, hle, hge, -⟩ := hwf.fields_wellFormed _ hmem
      exact ⟨lo', hi', d, hmem, Float.isNaN_eq_false (Float.isFinite_of_le_of_le hlo hhi hle hge)⟩

/-- After the field phase the members of every group hold values of one kind. -/
theorem SortableGroups.groupOfKind_foldl_applyField {specs : List FieldSpec} (hs : SortableGroups specs)
    (raw : Json.Fields) (v : Validation) {s : FieldSpec} (hmem : s ∈ specs) :
    ∃ kind, (specs.foldl (Validation.applyField raw) v).record.GroupOfKind s.members kind := by
  cases s
  case ordering fields =>
    obtain ⟨kind, hk⟩ := hs.members_numeric fields hmem
    refine ⟨kind, fun f hf => ?_⟩
    obtain ⟨lo, hi, d, hspec, hd⟩ := hk f hf
    obtain ⟨w, rep, hrep⟩ := FieldSpec.repairField_of_owner? raw
      (rfl : (FieldSpec.numeric f lo hi d kind).owner? = some f)
    refine ⟨w, Validation.get?_foldl_applyField raw hrep specs v hs.owners_nodup hspec, ?_⟩
    simp only [FieldSpec.repairField, Option.some.injEq, Prod.mk.injEq] at hrep
    obtain ⟨-, rfl, -⟩ := hrep
    cases kind
    · exact Payload.isNaN_clampNumeric _ _ _ hd
    · exact ⟨_, rfl⟩
  all_goals exact ⟨.float, fun f hf => by cases hf⟩

/-- Under `SortableGroups`, validation leaves every ordering group sorted,
holding up to `==` a permutation of the numbers the field phase stored for
it; it reports a reordering for exactly the members whose value changed,
and the ordering phase touches no field outside the groups. -/
theorem validate_sorts_groups {specs : List FieldSpec} (hs : SortableGroups specs) (domain : Domain)
    (raw : Json.Fields) :
    let fielded := specs.foldl (Validation.applyField raw) ⟨Record.empty domain, []⟩
    let v := validate domain raw specs
    (∀ fields, .ordering fields ∈ specs → ∃ xs ys,
        fields.mapM fielded.record.number? = some xs ∧ fields.mapM v.record.number? = some ys ∧
        ys.Pairwise (· ≤ ·) ∧
          ∃ zs, zs.Perm xs ∧ List.Forall₂ (fun y z => (y == z) = true) ys zs) ∧
      (∀ f, ⟨f, .reordered⟩ ∈ v.repairs ↔
        f ∈ specs.flatMap FieldSpec.members ∧ v.record.get? f ≠ fielded.record.get? f) ∧
      ∀ g ∉ specs.flatMap FieldSpec.members, v.record.get? g = fielded.record.get? g := by
  intro fielded v
  have hv : v = specs.foldl Validation.applyOrdering fielded := rfl
  obtain ⟨hrepairs, hget⟩ := Validation.foldl_applyOrdering_groups specs fielded hs.members_nodup
  rw [← hv] at hrepairs hget
  have hnd : ∀ s ∈ specs, s.members.Nodup := (List.nodup_flatMap.1 hs.members_nodup).1
  refine ⟨fun fields hmem => ?_, fun f => ?_, fun g hg => ?_⟩
  · obtain ⟨kind, hkind⟩ := hs.groupOfKind_foldl_applyField raw _ hmem
    have hagree := hget _ hmem
    have hsorted := Record.groupOfKind_reorder (hnd _ hmem) hkind
    exact ⟨_, _, Record.mapM_number? (Record.numbers_of_groupOfKind hkind),
      (Record.mapM_number?_congr hagree).trans
        (Record.mapM_number? (Record.numbers_of_groupOfKind hsorted)),
      Record.pairwise_le_reorder (hnd _ hmem) hkind, _, List.mergeSort_perm _ _,
      Record.forall₂_beq_reorder (hnd _ hmem) hkind⟩
  · rw [hrepairs, List.mem_append, List.mem_flatMap]
    constructor
    · rintro (hf | ⟨s, hsm, hf⟩)
      · exact absurd hf (Validation.not_mem_repairs_foldl_applyField raw specs domain f)
      · obtain ⟨kind, hkind⟩ := hs.groupOfKind_foldl_applyField raw _ hsm
        obtain ⟨hfm, hne⟩ := (Record.mem_reorder_snd_iff (hnd s hsm) hkind f).1 hf
        exact ⟨List.mem_flatMap.2 ⟨s, hsm, hfm⟩, by rw [hget s hsm f hfm]; exact hne⟩
    · rintro ⟨hfm, hne⟩
      obtain ⟨s, hsm, hfs⟩ := List.mem_flatMap.1 hfm
      obtain ⟨kind, hkind⟩ := hs.groupOfKind_foldl_applyField raw _ hsm
      rw [hget s hsm f hfs] at hne
      exact Or.inr ⟨s, hsm, (Record.mem_reorder_snd_iff (hnd s hsm) hkind f).2 ⟨hfs, hne⟩⟩
  · rw [hv]
    exact Validation.get?_foldl_applyOrdering_of_not_mem specs fielded hg

/-- The salary benchmark's constraints sort their groups on their own, here
on a payload whose benchmark triple comes in descending order. -/
theorem salaryBenchmark_validate_sorts_groups :
    let specs := Domain.salaryBenchmark.policy.fields
    let raw : Json.Fields := [("benchmark_max", .number (.natural 75000)),
      ("benchmark_median", .number (.natural 60000)), ("benchmark_min", .number (.natural 90000))]
    let fielded := specs.foldl (Validation.applyField raw) ⟨Record.empty .salaryBenchmark, []⟩
    let v := validate .salaryBenchmark raw specs
    SortableGroups specs ∧
      (∀ fields, .ordering fields ∈ specs → ∃ xs ys,
        fields.mapM fielded.record.number? = some xs ∧ fields.mapM v.record.number? = some ys ∧
        ys.Pairwise (· ≤ ·) ∧
          ∃ zs, zs.Perm xs ∧ List.Forall₂ (fun y z => (y == z) = true) ys zs) ∧
      (∀ f, ⟨f, .reordered⟩ ∈ v.repairs ↔
        f ∈ specs.flatMap FieldSpec.members ∧ v.record.get? f ≠ fielded.record.get? f) ∧
      ∀ g ∉ specs.flatMap FieldSpec.members, v.record.get? g = fielded.record.get? g :=
  ⟨(Domain.policy_wellFormed .salaryBenchmark).sortableGroups,
    validate_sorts_groups (Domain.policy_wellFormed .salaryBenchmark).sortableGroups _ _⟩

/-- Two numbers in descending total order are swapped by the sort. -/
theorem Float.sortTotal_pair {x y : Float} (h : y.totalKey < x.totalKey) :
    Float.sortTotal [x, y] = [y, x] := by
  simp [Float.sortTotal, List.mergeSort, List.cons_merge_cons]
  omega

/-- Groups that share a field undo each other: float fields `a`, `b`, `c` of
one range, grouped as `[a, b]` and then `[b, c]`.  The first group sorts
`5, 3` into `a = 3, b = 5`; the second sorts `5, 1` into `b = 1, c = 5`, and
the record leaves validation with its first group descending. -/
theorem overlapping_groups_unordered :
    let r := (validate .salaryBenchmark
      [("a", .number (.natural 5)), ("b", .number (.natural 3)), ("c", .number (.natural 1))]
      [.float "a" 0.0 10.0 5.0, .float "b" 0.0 10.0 5.0, .float "c" 0.0 10.0 5.0,
        .ordering ["a", "b"], .ordering ["b", "c"]]).record
    r.groupValues ["a", "b"] = .ok [3.0, 1.0] ∧
      r.checkSpec (.ordering ["a", "b"]) = .error (.unordered ["a", "b"]) := by
  intro r
  have h₁ : (⟨.salaryBenchmark, [("a", .number 5.0), ("b", .number 3.0), ("c", .number 1.0)]⟩ :
      Record).reorder ["a", "b"] =
      (⟨.salaryBenchmark, [("a", .number 3.0), ("b", .number 5.0), ("c", .number 1.0)]⟩,
        [⟨"a", .reordered⟩, ⟨"b", .reordered⟩]) := by
    unfold Record.reorder
    rw [show ["a", "b"].mapM _ = some [5.0, 3.0] from rfl]
    dsimp only
    rw [Float.sortTotal_pair (by decide)]
    rfl
  have h₂ : (⟨.salaryBenchmark, [("a", .number 3.0), ("b", .number 5.0), ("c", .number 1.0)]⟩ :
      Record).reorder ["b", "c"] =
      (⟨.salaryBenchmark, [("a", .number 3.0), ("b", .number 1.0), ("c", .number 5.0)]⟩,
        [⟨"b", .reordered⟩, ⟨"c", .reordered⟩]) := by
    unfold Record.reorder
    rw [show ["b", "c"].mapM _ = some [5.0, 1.0] from rfl]
    dsimp only
    rw [Float.sortTotal_pair (by decide)]
    rfl
  have hr : r =
      ⟨.salaryBenchmark, [("a", .number 3.0), ("b", .number 1.0), ("c", .number 5.0)]⟩ := by
    show (Validation.applyOrdering (Validation.applyOrdering ⟨⟨.salaryBenchmark,
      [("a", .number 5.0), ("b", .number 3.0), ("c", .number 1.0)]⟩, []⟩ (.ordering ["a", "b"]))
      (.ordering ["b", "c"])).record = _
    simp only [Validation.applyOrdering, h₁, h₂]
  rw [hr]
  exact ⟨rfl, rfl⟩

end CareerInsight
