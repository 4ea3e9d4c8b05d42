import Mathlib
import CareerInsight.Proofs.Validation.Repair

/-!
# Well-formed policies

A policy declares its field constraints, its ordering groups and its
composites.  Repair can only promise a record that passes the invariant
check when these declarations fit together.  `Policy.WellFormed` collects
the conditions: each field has one owner, each constraint is well formed
on its own (`FieldSpec.WellFormed`), the fallback explanation is usable,
the members of the ordering groups are distinct numeric fields that share
one kind and one range within a group, and the composites fill distinct
undeclared fields under ceilings that are at least zero.

The condition is decidable, and `Domain.policy_wellFormed` checks it for
every builtin policy.

* `Policy.specFor?_of_owner?`: with distinct owners, the constraint that
  `specFor?` finds for a field is the one that owns it.
* `Policy.WellFormed.exists_groupRange`: the members of an ordering group
  are owned by numeric constraints of one kind whose bounds have the same
  exact values.
-/

/-- Two elements of a list whose images share an element are equal, when
the images, concatenated, have no duplicate. -/
theorem List.eq_of_mem_flatMap_nodup {α β : Type} {l : List α} {g : α → List β}
    (hnd : (l.flatMap g).Nodup) {a b : α} {x : β} (ha : a ∈ l) (hb : b ∈ l)
    (hxa : x ∈ g a) (hxb : x ∈ g b) : a = b := by
  by_contra hne
  have : Std.Symm (Function.onFun List.Disjoint g) := ⟨fun _ _ h => List.Disjoint.symm h⟩
  exact (List.nodup_flatMap.1 hnd).2.forall ha hb hne hxa hxb

namespace CareerInsight

namespace FieldSpec

/-- The members of an ordering group; any other constraint has none. -/
def members : FieldSpec → List String
  | ordering fields => fields
  | _ => []

/-- Whether a constraint is a text field. -/
def isText : FieldSpec → Bool
  | text .. => true
  | _ => false

/-- Two constraints of a list that own one field are the same, when no field
has two owners there. -/
theorem eq_of_owner?_eq {l : List FieldSpec} (hnd : (l.filterMap owner?).Nodup)
    {s t : FieldSpec} {f : String} (hs : s ∈ l) (ht : t ∈ l) (hsf : s.owner? = some f)
    (htf : t.owner? = some f) : s = t := by
  rw [List.filterMap_eq_flatMap_toList] at hnd
  exact List.eq_of_mem_flatMap_nodup hnd hs ht (x := f) (by simp [hsf]) (by simp [htf])

end FieldSpec

namespace Policy

/-- The kind and bounds of a numeric field, from the constraint that owns it. -/
def numericBounds? (p : Policy) (field : String) : Option (NumericKind × Float × Float) :=
  match p.specFor? field with
  | some (.numeric _ lo hi _ kind) => some (kind, lo, hi)
  | _ => none

/-- Whether two fields are numeric fields of one kind with equal bounds. -/
def sameNumeric (p : Policy) (f g : String) : Bool :=
  match p.numericBounds? f, p.numericBounds? g with
  | some (k, lo, hi), some (k', lo', hi') => k == k' && lo == lo' && hi == hi'
  | _, _ => false

/-- The fields the composites fill: each score field and its category field. -/
def outputFields (p : Policy) : List String :=
  p.composites.flatMap fun c => [c.field, c.categoryField]

/-- What a policy must declare so that every payload repairs into a record
that passes the invariant check. -/
structure WellFormed (p : Policy) : Prop where
  /-- No field is owned by two constraints. -/
  owners_nodup : (p.fields.filterMap FieldSpec.owner?).Nodup
  /-- Every constraint is well formed on its own. -/
  fields_wellFormed : ∀ spec ∈ p.fields, spec.WellFormed
  /-- The explanation of a fallback record is not blank. -/
  message_not_blank : p.unavailableMessage.isBlank = false
  /-- The explanation field is owned by a text constraint. -/
  explanation_text : (p.specFor? p.explanationField).any FieldSpec.isText = true
  /-- No field is in two ordering groups, or twice in one. -/
  members_nodup : (p.fields.flatMap FieldSpec.members).Nodup
  /-- The members of a group are numeric fields of one kind with equal bounds. -/
  members_numeric :
    ∀ spec ∈ p.fields, ∀ f ∈ spec.members, ∀ g ∈ spec.members, p.sameNumeric f g = true
  /-- Every ceiling is at least zero. -/
  ceilings_nonneg : ∀ c ∈ p.composites, 0.0 ≤ c.ceiling
  /-- The composites fill distinct fields ... -/
  outputs_nodup : p.outputFields.Nodup
  /-- ... that no constraint owns. -/
  outputs_undeclared : ∀ f ∈ p.outputFields, p.specFor? f = none

theorem wellFormed_iff (p : Policy) :
    p.WellFormed ↔ (p.fields.filterMap FieldSpec.owner?).Nodup ∧
      (∀ spec ∈ p.fields, spec.WellFormed) ∧ p.unavailableMessage.isBlank = false ∧
      (p.specFor? p.explanationField).any FieldSpec.isText = true ∧
      (p.fields.flatMap FieldSpec.members).Nodup ∧
      (∀ spec ∈ p.fields, ∀ f ∈ spec.members, ∀ g ∈ spec.members, p.sameNumeric f g = true) ∧
      (∀ c ∈ p.composites, 0.0 ≤ c.ceiling) ∧ p.outputFields.Nodup ∧
      (∀ f ∈ p.outputFields, p.specFor? f = none) :=
  ⟨fun ⟨h₁, h₂, h₃, h₄, h₅, h₆, h₇, h₈, h₉⟩ => ⟨h₁, h₂, h₃, h₄, h₅, h₆, h₇, h₈, h₉⟩,
    fun ⟨h₁, h₂, h₃, h₄, h₅, h₆, h₇, h₈, h₉⟩ => ⟨h₁, h₂, h₃, h₄, h₅, h₆, h₇, h₈, h₉⟩⟩

instance : DecidablePred WellFormed := fun p => decidable_of_iff _ (wellFormed_iff p).symm

/-! ## The owner of a field -/

section Owner

variable {p : Policy} {f : String} {spec : FieldSpec}

theorem mem_of_specFor? (h : p.specFor? f = some spec) : spec ∈ p.fields ∧ spec.owner? = some f := by
  unfold specFor? at h
  have hp := List.find?_some h
  exact ⟨List.mem_of_find?_eq_some h, beq_iff_eq.1 hp⟩

theorem specFor?_of_owner? (hnd : (p.fields.filterMap FieldSpec.owner?).Nodup)
    (hs : spec ∈ p.fields) (hf : spec.owner? = some f) : p.specFor? f = some spec := by
  cases hfind : p.specFor? f with
  | none =>
    have := List.find?_eq_none.1 hfind spec hs
    simp [hf] at this
  | some t =>
    obtain ⟨ht, htf⟩ := mem_of_specFor? hfind
    rw [FieldSpec.eq_of_owner?_eq hnd ht hs htf hf]

theorem numericBounds?_eq_some {k : NumericKind} {lo hi : Float}
    (h : p.numericBounds? f = some (k, lo, hi)) :
    ∃ d, p.specFor? f = some (.numeric f lo hi d k) := by
  unfold numericBounds? at h
  split at h
  · next g lo' hi' d k' hspec =>
    simp only [Option.some.injEq, Prod.mk.injEq] at h
    obtain ⟨rfl, rfl, rfl⟩ := h
    have hg : some g = some f := (mem_of_specFor? hspec).2
    cases hg
    exact ⟨d, hspec⟩
  · simp at h

theorem sameNumeric_eq_true {g : String} (h : p.sameNumeric f g = true) :
    ∃ k lo hi lo' hi', p.numericBounds? f = some (k, lo, hi) ∧
      p.numericBounds? g = some (k, lo', hi') ∧ (lo == lo') = true ∧ (hi == hi') = true := by
  unfold sameNumeric at h
  split at h
  · next k lo hi k' lo' hi' hf hg =>
    simp only [Bool.and_eq_true] at h
    obtain ⟨⟨hk, hlo⟩, hhi⟩ := h
    obtain rfl : k = k' := by cases k <;> cases k' <;> first | rfl | cases hk
    exact ⟨k, lo, hi, lo', hi', hf, hg, hlo, hhi⟩
  · simp at h

end Owner

/-! ## What a well-formed policy gives -/

namespace WellFormed

variable {p : Policy} (hwf : p.WellFormed)
include hwf

/-- Every member of an ordering group is owned by a numeric constraint, and
all of them share one kind and the exact values of their bounds.  The bounds
are finite, so bounds equal as floats have equal exact values. -/
theorem exists_groupRange {fields : List String} (hs : .ordering fields ∈ p.fields)
    {f₀ : String} (hf₀ : f₀ ∈ fields) :
    ∃ (kind : NumericKind) (lo hi : Int), ∀ g ∈ fields, ∃ lo' hi' d,
      p.specFor? g = some (.numeric g lo' hi' d kind) ∧ lo'.scaled = lo ∧ hi'.scaled = hi := by
  obtain ⟨k, lo, hi, -, -, h₀, -, -, -⟩ :=
    sameNumeric_eq_true (hwf.members_numeric _ hs f₀ hf₀ f₀ hf₀)
  refine ⟨k, lo.scaled, hi.scaled, fun g hg => ?_⟩
  obtain ⟨k₁, lo₁, hi₁, lo', hi', h₁, hg', hlo, hhi⟩ :=
    sameNumeric_eq_true (hwf.members_numeric _ hs f₀ hf₀ g hg)
  rw [h₀] at h₁
  simp only [Option.some.injEq, Prod.mk.injEq] at h₁
  obtain ⟨rfl, rfl, rfl⟩ := h₁
  obtain ⟨d₀, hspec₀⟩ := numericBounds?_eq_some h₀
  obtain ⟨d, hspec⟩ := numericBounds?_eq_some hg'
  obtain ⟨hlo₀, hhi₀, -⟩ := hwf.fields_wellFormed _ (mem_of_specFor? hspec₀).1
  obtain ⟨hlo', hhi', -⟩ := hwf.fields_wellFormed _ (mem_of_specFor? hspec).1
  exact ⟨lo', hi', d, hspec, ((Float.beq_iff_scaled hlo₀ hlo').1 hlo).symm,
    ((Float.beq_iff_scaled hhi₀ hhi').1 hhi).symm⟩

/-- The explanation field is owned by a text constraint. -/
theorem exists_explanation : ∃ fallback,
    p.specFor? p.explanationField = some (.text p.explanationField fallback) := by
  have h := hwf.explanation_text
  cases hspec : p.specFor? p.explanationField with
  | none => simp [hspec] at h
  | some spec =>
    rw [hspec] at h
    cases spec <;> simp only [Option.any_some, FieldSpec.isText, Bool.false_eq_true] at h
    next g fb =>
      have hg : some g = some p.explanationField := (mem_of_specFor? hspec).2
      cases hg
      exact ⟨fb, rfl⟩

/-- The explanation field is a text field, so no ordering group holds it. -/
theorem explanation_not_mem {fields : List String} (hs : .ordering fields ∈ p.fields) :
    p.explanationField ∉ fields := by
  intro hmem
  obtain ⟨k, lo, hi, -, -, h, -⟩ :=
    sameNumeric_eq_true (hwf.members_numeric _ hs _ hmem _ hmem)
  obtain ⟨fb, hspec⟩ := hwf.exists_explanation
  simp [numericBounds?, hspec] at h

/-- Two ordering groups of the policy that share a member are the same. -/
theorem eq_of_mem_members {s t : FieldSpec} {g : String} (hs : s ∈ p.fields) (ht : t ∈ p.fields)
    (hgs : g ∈ s.members) (hgt : g ∈ t.members) : s = t :=
  List.eq_of_mem_flatMap_nodup hwf.members_nodup hs ht hgs hgt

/-- The score fields of the composites are distinct. -/
theorem composites_nodup : (p.composites.map (·.field)).Nodup := by
  have hsub : ∀ cs : List CompositeFormula,
      List.Sublist (cs.map (·.field)) (cs.flatMap fun c => [c.field, c.categoryField]) := by
    intro cs
    induction cs with
    | nil => exact List.Sublist.slnil
    | cons c cs ih =>
      simp only [List.map_cons, List.flatMap_cons, List.cons_append, List.nil_append]
      exact (ih.cons _).cons_cons _
  exact hwf.outputs_nodup.sublist (hsub p.composites)

end WellFormed

end Policy

/-- Every builtin policy is well formed. -/
theorem Domain.policy_wellFormed (d : Domain) : d.policy.WellFormed := by
  cases d <;> decide +kernel

end CareerInsight
