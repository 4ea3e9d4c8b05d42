import Mathlib
import CareerInsight.Proofs.Policy.WellFormed
import CareerInsight.Proofs.Validation.Ordering
import CareerInsight.Proofs.Composite.Score

/-!
# Repaired records pass the invariant check

`validate` runs in two phases.  The field phase folds `applyField` over the
constraints, and each constraint writes the repaired value of the field it
owns.  The ordering phase folds `applyOrdering`, and each ordering group
sorts its members in place.  This module shows that under a well-formed
policy (`Policy.WellFormed`) the scored record passes `ScoredRecord.check`,
whatever the payload.

There are four groups.

* The field phase.  With distinct owners the last word on a field is its
  own constraint's (`get?_foldl_applyField`), so every owned field holds a
  value that meets its constraint (`Policy.FieldsHold`).
* The ordering phase.  `Policy.GroupsSorted` says that every group with no
  member still pending passes its order check.  `settled_applyOrdering` is
  the step: one group keeps the field invariant, since its members share a
  range, and sorts itself without touching any other group.  The run lemma
  `settled_foldl_applyOrdering` ends with nothing pending.
* The assembly.  `check_of_settled` puts the fields, the groups and the
  composites together, and `scorePayload_check` is the result for a
  repaired payload.
* The fallback.  Writing the unavailable message into the explanation
  field keeps both invariants (`settled_set_explanation`), so the fallback
  record passes the check too (`fallback_check`).
-/

/-- A traversal in the exception monad succeeds when every step does. -/
theorem List.forM_except_ok {α ε : Type} {xs : List α} {g : α → Except ε Unit}
    (h : ∀ x ∈ xs, g x = .ok ()) : xs.forM g = .ok () := by
  induction xs with
  | nil => rfl
  | cons x xs ih =>
    simp only [List.forM, h x List.mem_cons_self]
    exact ih fun y hy => h y (List.mem_cons_of_mem x hy)

namespace CareerInsight

/-! ## The field phase -/

namespace Validation

theorem record_applyField (raw : Json.Fields) (v : Validation) (spec : FieldSpec) :
    (v.applyField raw spec).record = match spec.repairField raw with
      | none => v.record
      | some (field, value, _) => v.record.set field value := by
  unfold applyField
  rcases spec.repairField raw with _ | ⟨f, val, r⟩ <;> rfl

theorem domain_foldl_applyField (raw : Json.Fields) (specs : List FieldSpec) (v : Validation) :
    (specs.foldl (applyField raw) v).record.domain = v.record.domain := by
  induction specs generalizing v with
  | nil => rfl
  | cons spec specs ih =>
    rw [List.foldl_cons, ih, record_applyField]
    split <;> rfl

/-- A field that no constraint of the list owns is never written. -/
theorem get?_foldl_applyField_of_unowned (raw : Json.Fields) {g : String} (specs : List FieldSpec)
    (v : Validation) (h : ∀ s ∈ specs, s.owner? ≠ some g) :
    (specs.foldl (applyField raw) v).record.get? g = v.record.get? g := by
  induction specs generalizing v with
  | nil => rfl
  | cons spec specs ih =>
    rw [List.foldl_cons, ih _ fun s hs => h s (List.mem_cons_of_mem _ hs), record_applyField]
    split
    · rfl
    · next f val r hrep =>
      have hf : f ≠ g := fun hfg =>
        h spec List.mem_cons_self (hfg ▸ FieldSpec.owner?_of_repairField hrep)
      simp [hf]

/-- With distinct owners, a field holds the value its own constraint wrote. -/
theorem get?_foldl_applyField (raw : Json.Fields) {spec : FieldSpec} {f : String}
    {val : FieldValue} {r : Option RepairKind} (hrep : spec.repairField raw = some (f, val, r)) :
    ∀ (specs : List FieldSpec) (v : Validation), (specs.filterMap FieldSpec.owner?).Nodup →
      spec ∈ specs → (specs.foldl (applyField raw) v).record.get? f = some val := by
  intro specs
  induction specs with
  | nil => intro v _ hmem; cases hmem
  | cons s specs ih =>
    intro v hnd hmem
    have hnd' : (specs.filterMap FieldSpec.owner?).Nodup :=
      hnd.sublist ((List.sublist_cons_self s specs).filterMap _)
    rw [List.foldl_cons]
    rcases List.mem_cons.1 hmem with rfl | hmem
    · have hown := FieldSpec.owner?_of_repairField hrep
      rw [List.filterMap_cons_some hown, List.nodup_cons] at hnd
      have hunowned : ∀ t ∈ specs, t.owner? ≠ some f := fun t ht htf =>
        hnd.1 (List.mem_filterMap.2 ⟨t, ht, htf⟩)
      rw [get?_foldl_applyField_of_unowned raw specs _ hunowned, record_applyField, hrep]
      simp
    · exact ih _ hnd' hmem

theorem record_applyOrdering (v : Validation) (fields : List String) :
    (v.applyOrdering (.ordering fields)).record = (v.record.reorder fields).1 := rfl

theorem domain_foldl_applyOrdering (specs : List FieldSpec) (v : Validation) :
    (specs.foldl applyOrdering v).record.domain = v.record.domain := by
  induction specs generalizing v with
  | nil => rfl
  | cons spec specs ih =>
    rw [List.foldl_cons, ih]
    cases spec
    case ordering fields => exact Record.domain_reorder _ _
    all_goals rfl

end Validation

namespace Policy

/-- Every field a constraint owns holds a value that meets the constraint. -/
def FieldsHold (p : Policy) (r : Record) : Prop :=
  ∀ spec ∈ p.fields, ∀ f, spec.owner? = some f → ∃ v, r.get? f = some v ∧ spec.Holds v

/-- After the field phase every owned field meets its constraint. -/
theorem fieldsHold_foldl_applyField {p : Policy} (hwf : p.WellFormed) (raw : Json.Fields)
    (v : Validation) : p.FieldsHold (p.fields.foldl (Validation.applyField raw) v).record := by
  intro spec hs f hf
  obtain ⟨val, r, hrep⟩ := FieldSpec.repairField_of_owner? raw hf
  exact ⟨val, Validation.get?_foldl_applyField raw hrep _ _ hwf.owners_nodup hs,
    FieldSpec.repairField_holds (hwf.fields_wellFormed _ hs) hrep⟩

/-! ## The ordering phase -/

/-- Every ordering group none of whose members is pending passes its order
check. -/
def GroupsSorted (p : Policy) (r : Record) (pending : List String) : Prop :=
  ∀ fields, .ordering fields ∈ p.fields → (∀ f ∈ fields, f ∉ pending) →
    r.checkSpec (.ordering fields) = .ok ()

/-- Before the ordering phase every group is pending, except the empty ones. -/
theorem groupsSorted_all (p : Policy) (r : Record) :
    p.GroupsSorted r (p.fields.flatMap FieldSpec.members) := by
  intro fields hs hpending
  cases fields with
  | nil => rfl
  | cons f fields =>
    exact absurd (List.mem_flatMap.2 ⟨_, hs, List.mem_cons_self⟩) (hpending f List.mem_cons_self)

end Policy

namespace Record

theorem groupValues_congr {r r' : Record} {fields : List String}
    (h : ∀ f ∈ fields, r'.get? f = r.get? f) : r'.groupValues fields = r.groupValues fields := by
  induction fields with
  | nil => rfl
  | cons f fields ih =>
    have hf : r'.number? f = r.number? f := by
      simp only [number?, h f List.mem_cons_self]
    simp only [groupValues, hf, ih fun g hg => h g (List.mem_cons_of_mem f hg)]

/-- The order check of a group reads the group's members only. -/
theorem checkSpec_ordering_congr {r r' : Record} {fields : List String}
    (h : ∀ f ∈ fields, r'.get? f = r.get? f) :
    r'.checkSpec (.ordering fields) = r.checkSpec (.ordering fields) := by
  simp only [checkSpec, groupValues_congr h]

end Record

namespace Policy

/-- Fields owned by numeric constraints with one kind and one range fit
that range. -/
theorem groupFits_of_fieldsHold {p : Policy} {r : Record} {fields : List String}
    (h : p.FieldsHold r) {kind : NumericKind} {lo hi : Int}
    (hrange : ∀ g ∈ fields, ∃ lo' hi' d,
      p.specFor? g = some (.numeric g lo' hi' d kind) ∧ lo'.scaled = lo ∧ hi'.scaled = hi) :
    r.GroupFits fields kind lo hi := by
  intro g hg
  obtain ⟨lo', hi', d, hspec, rfl, rfl⟩ := hrange g hg
  exact h _ (mem_of_specFor? hspec).1 g rfl

section Ordering

variable {p : Policy} (hwf : p.WellFormed)
include hwf

/-- Sorting one group of a well-formed policy keeps every field within its
constraint and leaves the group in order.  Each member is owned by the numeric
constraint of the group's range. -/
theorem fieldsHold_reorder {r : Record} {fields : List String}
    (hs : .ordering fields ∈ p.fields) (h : p.FieldsHold r) :
    p.FieldsHold (r.reorder fields).1 ∧
      (r.reorder fields).1.checkSpec (.ordering fields) = .ok () := by
  by_cases hne : fields = []
  · subst hne
    exact ⟨h, rfl⟩
  obtain ⟨kind, lo, hi, hrange⟩ := hwf.exists_groupRange hs (List.head_mem hne)
  have hnd : fields.Nodup := (List.nodup_flatMap.1 hwf.members_nodup).1 _ hs
  have hfit := groupFits_of_fieldsHold h hrange
  refine ⟨fun spec hspec f hf => ?_, Record.checkSpec_reorder hnd hfit⟩
  by_cases hmem : f ∈ fields
  · obtain ⟨lo', hi', d, hfor, hlo, hhi⟩ := hrange f hmem
    rw [specFor?_of_owner? hwf.owners_nodup hspec hf, Option.some.injEq] at hfor
    subst hfor
    obtain ⟨v, hv, hfits⟩ := Record.groupFits_reorder hnd hfit f hmem
    refine ⟨v, hv, ?_⟩
    show v.FitsNumeric kind lo'.scaled hi'.scaled
    rw [hlo, hhi]
    exact hfits
  · rw [Record.get?_reorder_of_not_mem r hmem]
    exact h spec hspec f hf

/-- One step of the ordering phase: the fields still hold, and a group whose
members are no longer pending is sorted.  A group that shares a member with
this one is this one. -/
theorem settled_applyOrdering {v : Validation} {spec : FieldSpec} {pending : List String}
    (hs : spec ∈ p.fields) (h : p.FieldsHold v.record)
    (hsorted : p.GroupsSorted v.record (spec.members ++ pending)) :
    p.FieldsHold (v.applyOrdering spec).record ∧
      p.GroupsSorted (v.applyOrdering spec).record pending := by
  cases spec
  case ordering fields =>
    rw [Validation.record_applyOrdering]
    obtain ⟨hholds, hgroup⟩ := fieldsHold_reorder hwf hs h
    refine ⟨hholds, fun gs hgs hpending => ?_⟩
    by_cases hshare : ∃ g ∈ gs, g ∈ fields
    · obtain ⟨g, hg, hgf⟩ := hshare
      cases hwf.eq_of_mem_members hgs hs hg hgf
      exact hgroup
    · simp only [not_exists, not_and] at hshare
      have hout : ∀ g ∈ gs, (v.record.reorder fields).1.get? g = v.record.get? g :=
        fun g hg => Record.get?_reorder_of_not_mem _ (hshare g hg)
      rw [Record.checkSpec_ordering_congr hout]
      refine hsorted gs hgs fun g hg hmem => ?_
      rcases List.mem_append.1 hmem with hin | hin
      · exact hshare g hg hin
      · exact hpending g hg hin
  all_goals exact ⟨h, hsorted⟩

/-- The ordering phase, run over constraints of the policy, ends with
the fields holding and no group pending. -/
theorem settled_foldl_applyOrdering (specs : List FieldSpec) (v : Validation)
    (hsub : ∀ s ∈ specs, s ∈ p.fields) (h : p.FieldsHold v.record)
    (hsorted : p.GroupsSorted v.record (specs.flatMap FieldSpec.members)) :
    p.FieldsHold (specs.foldl Validation.applyOrdering v).record ∧
      p.GroupsSorted (specs.foldl Validation.applyOrdering v).record [] := by
  induction specs generalizing v with
  | nil => exact ⟨h, hsorted⟩
  | cons spec specs ih =>
    rw [List.flatMap_cons] at hsorted
    obtain ⟨h', hsorted'⟩ := settled_applyOrdering hwf (hsub spec List.mem_cons_self) h hsorted
    exact ih _ (fun s hs => hsub s (List.mem_cons_of_mem _ hs)) h' hsorted'

end Ordering

end Policy

/-! ## The assembly -/

namespace Policy

section Check

variable {p : Policy} (hwf : p.WellFormed)
include hwf

/-- With the fields holding and no group pending, every constraint of the
policy passes its check. -/
theorem checkSpec_of_settled {r : Record} (h : p.FieldsHold r) (hsorted : p.GroupsSorted r [])
    {spec : FieldSpec} (hs : spec ∈ p.fields) : r.checkSpec spec = .ok () := by
  cases spec
  case ordering fields => exact hsorted fields hs fun _ _ => List.not_mem_nil
  all_goals
    obtain ⟨v, hv, hholds⟩ := h _ hs _ rfl
    simp only [Record.checkSpec, FieldSpec.owner?, hv]
    exact FieldSpec.checkValue_of_holds _ (hwf.fields_wellFormed _ hs) hholds

/-- A record of the policy's domain whose fields hold and whose groups are
sorted passes the whole check once scored, whatever its source. -/
theorem check_of_settled {r : Record} (hdom : r.domain = p.domain) (h : p.FieldsHold r)
    (hsorted : p.GroupsSorted r []) (source : RecordSource) :
    (⟨r, p.scores r, source⟩ : ScoredRecord).check p = .ok () := by
  have hdom' : (r.domain != p.domain) = false := by
    rw [hdom]
    cases p.domain <;> rfl
  simp only [ScoredRecord.check, hdom', Bool.false_eq_true, ↓reduceIte]
  rw [List.forM_except_ok fun spec hs => checkSpec_of_settled hwf h hsorted hs]
  exact List.forM_except_ok fun c hc =>
    checkComposite_scores p r source hwf.composites_nodup hc (hwf.ceilings_nonneg c hc)

/-- The record repaired from any payload is of the policy's domain, its
fields hold and its groups are sorted. -/
theorem settled_validate (raw : Json.Fields) :
    (validate p.domain raw p.fields).record.domain = p.domain ∧
      p.FieldsHold (validate p.domain raw p.fields).record ∧
      p.GroupsSorted (validate p.domain raw p.fields).record [] := by
  unfold validate
  generalize hv : p.fields.foldl (Validation.applyField raw) ⟨Record.empty p.domain, []⟩ = v
  have hdom : v.record.domain = p.domain := by
    rw [← hv, Validation.domain_foldl_applyField]
    rfl
  have h : p.FieldsHold v.record := hv ▸ fieldsHold_foldl_applyField hwf raw _
  obtain ⟨h', hsorted'⟩ :=
    settled_foldl_applyOrdering hwf p.fields v (fun _ hs => hs) h (groupsSorted_all p _)
  exact ⟨(Validation.domain_foldl_applyOrdering _ _).trans hdom, h', hsorted'⟩

end Check

/-- Under a well-formed policy, the record repaired from any payload and
scored passes every invariant check. -/
theorem scorePayload_check {p : Policy} (hwf : p.WellFormed) (raw : Json.Fields) :
    (p.scorePayload raw).1.check p = .ok () := by
  obtain ⟨hdom, h, hsorted⟩ := settled_validate hwf raw
  exact check_of_settled hwf hdom h hsorted .generated

/-- A payload with the years of a career track out of order, a confidence
above its bound and an unknown key repairs into a record that passes. -/
theorem careerTrajectory_scorePayload_check :
    (Policy.careerTrajectory.scorePayload (Json.Fields.ofList
      [("years_to_next_level_optimistic", .number (.float 9.5)),
       ("years_to_next_level_conservative", .number (.natural 1)),
       ("confidence", .number (.float 3.5)),
       ("trajectory_score", .number (.natural 100))])).1.check Policy.careerTrajectory = .ok () :=
  scorePayload_check (Domain.policy_wellFormed .careerTrajectory) _

/-! ## The fallback record -/

section Fallback

variable {p : Policy} (hwf : p.WellFormed)
include hwf

/-- Writing the unavailable message into the explanation field keeps the
fields holding and the groups sorted. -/
theorem settled_set_explanation {r : Record} (h : p.FieldsHold r) (hsorted : p.GroupsSorted r []) :
    p.FieldsHold (r.set p.explanationField (.text p.unavailableMessage)) ∧
      p.GroupsSorted (r.set p.explanationField (.text p.unavailableMessage)) [] := by
  constructor
  · intro spec hs f hf
    by_cases hfe : p.explanationField = f
    · subst hfe
      obtain ⟨fb, hspec⟩ := hwf.exists_explanation
      rw [specFor?_of_owner? hwf.owners_nodup hs hf, Option.some.injEq] at hspec
      subst hspec
      exact ⟨.text p.unavailableMessage, by simp, hwf.message_not_blank⟩
    · rw [Record.get?_set, if_neg hfe]
      exact h spec hs f hf
  · intro fields hs _
    have hout : ∀ g ∈ fields,
        (r.set p.explanationField (.text p.unavailableMessage)).get? g = r.get? g := by
      intro g hg
      have hne : p.explanationField ≠ g := fun he => hwf.explanation_not_mem hs (he ▸ hg)
      rw [Record.get?_set, if_neg hne]
    rw [Record.checkSpec_ordering_congr hout]
    exact hsorted fields hs fun _ _ => List.not_mem_nil

/-- The fallback record of a well-formed policy passes every invariant
check. -/
theorem fallback_check : p.fallback.check p = .ok () := by
  obtain ⟨hdom, h, hsorted⟩ := settled_validate hwf p.seedPayload
  obtain ⟨h', hsorted'⟩ := settled_set_explanation hwf h hsorted
  exact check_of_settled hwf (by rw [Record.domain_set, hdom]) h' hsorted' .fallback

end Fallback

end Policy

end CareerInsight
