import Mathlib
import CareerInsight.Proofs.Validation.Repair

/-!
# Maps kept in ascending key order

`Keyed.put` inserts an entry before the first greater key, so a map built
by writes keeps its keys in strictly ascending order (`Keyed.Ordered`).
Under that invariant a key is there once, so a map answers a key with its
one entry (`Keyed.lookup_of_mem`), and two ordered maps that answer every
key alike are the same list (`Keyed.ext_ordered`).
-/

namespace CareerInsight

namespace Keyed

variable {α : Type}

/-- The keys of the entries ascend strictly, so no key is there twice. -/
def Ordered (es : List (String × α)) : Prop := es.Pairwise fun a b => a.1 < b.1

/-- Every entry after a write is the written one or an entry from before. -/
theorem mem_put {es : List (String × α)} {k : String} {v : α} {e : String × α}
    (h : e ∈ put es k v) : e = (k, v) ∨ e ∈ es := by
  induction es with
  | nil => simpa [put] using h
  | cons head rest ih =>
    obtain ⟨k₀, v₀⟩ := head
    by_cases heq : k = k₀
    · simp only [put, if_pos heq, List.mem_cons] at h
      rcases h with h | h
      · exact Or.inl h
      · exact Or.inr (List.mem_cons_of_mem _ h)
    · by_cases hlt : k < k₀
      · simp only [put, if_neg heq, if_pos hlt, List.mem_cons] at h
        rcases h with h | h | h
        · exact Or.inl h
        · exact Or.inr (by simp [h])
        · exact Or.inr (List.mem_cons_of_mem _ h)
      · simp only [put, if_neg heq, if_neg hlt, List.mem_cons] at h
        rcases h with h | h
        · exact Or.inr (by simp [h])
        · rcases ih h with h' | h'
          · exact Or.inl h'
          · exact Or.inr (List.mem_cons_of_mem _ h')

/-- A write keeps every key and adds its own. -/
theorem mem_keys_put (es : List (String × α)) (k k' : String) (v : α) :
    k' ∈ (put es k v).map (·.1) ↔ k' = k ∨ k' ∈ es.map (·.1) := by
  induction es with
  | nil => simp [put]
  | cons head rest ih =>
    obtain ⟨k₀, v₀⟩ := head
    by_cases heq : k = k₀
    · subst heq
      simp [put]
    · by_cases hlt : k < k₀
      · simp [put, heq, hlt]
      · simp only [put, if_neg heq, if_neg hlt, List.map_cons, List.mem_cons, ih]
        tauto

/-- Writing keeps the keys in ascending order. -/
theorem ordered_put {es : List (String × α)} (h : Ordered es) (k : String) (v : α) :
    Ordered (put es k v) := by
  induction es with
  | nil => simp [Ordered, put]
  | cons head rest ih =>
    obtain ⟨k₀, v₀⟩ := head
    obtain ⟨hhead, hrest⟩ := List.pairwise_cons.1 h
    by_cases heq : k = k₀
    · subst heq
      simp only [put, ↓reduceIte]
      exact List.pairwise_cons.2 ⟨hhead, hrest⟩
    · by_cases hlt : k < k₀
      · simp only [put, if_neg heq, if_pos hlt]
        refine List.pairwise_cons.2 ⟨fun e he => ?_, h⟩
        rcases List.mem_cons.1 he with rfl | he
        · exact hlt
        · exact lt_trans hlt (hhead e he)
      · have hgt : k₀ < k := lt_of_le_of_ne (not_lt.1 hlt) (Ne.symm heq)
        simp only [put, if_neg heq, if_neg hlt]
        refine List.pairwise_cons.2 ⟨fun e he => ?_, ih hrest⟩
        rcases mem_put he with rfl | he
        · exact hgt
        · exact hhead e he

/-- Ordered keys are distinct. -/
theorem keys_nodup {es : List (String × α)} (h : Ordered es) : (es.map (·.1)).Nodup :=
  List.pairwise_map.2 (h.imp ne_of_lt)

/-- An entry of distinct keys is what its key looks up. -/
theorem lookup_of_mem {es : List (String × α)} (hnd : (es.map (·.1)).Nodup) {k : String} {v : α}
    (h : (k, v) ∈ es) : lookup es k = some v := by
  induction es with
  | nil => cases h
  | cons head rest ih =>
    obtain ⟨k₀, v₀⟩ := head
    rw [List.map_cons, List.nodup_cons] at hnd
    rcases List.mem_cons.1 h with h | h
    · simp only [Prod.mk.injEq] at h
      obtain ⟨rfl, rfl⟩ := h
      simp [lookup]
    · have hne : k₀ ≠ k := fun he => hnd.1 (he ▸ List.mem_map_of_mem (f := (·.1)) h)
      simp [lookup, hne, ih hnd.2 h]

/-- A key that looks up a value has an entry with it. -/
theorem mem_of_lookup {es : List (String × α)} {k : String} {v : α} (h : lookup es k = some v) :
    (k, v) ∈ es := by
  induction es with
  | nil => cases h
  | cons head rest ih =>
    obtain ⟨k₀, v₀⟩ := head
    by_cases hk : k₀ = k
    · subst hk
      simp only [lookup, ↓reduceIte, Option.some.injEq] at h
      simp [h]
    · simp only [lookup, if_neg hk] at h
      exact List.mem_cons_of_mem _ (ih h)

/-- A map built from entries has their keys. -/
theorem mem_keys_ofList (l : List (String × α)) (k : String) :
    k ∈ (ofList l).map (·.1) ↔ k ∈ l.map (·.1) := by
  unfold ofList
  suffices h : ∀ acc : List (String × α),
      k ∈ (l.foldl (fun acc (e : String × α) => put acc e.1 e.2) acc).map (·.1) ↔
        k ∈ acc.map (·.1) ∨ k ∈ l.map (·.1) by
    simpa using h []
  induction l with
  | nil => simp
  | cons e rest ih =>
    intro acc
    rw [List.foldl_cons, ih, mem_keys_put, List.map_cons, List.mem_cons]
    tauto

/-- A map built from entries of distinct keys answers each key with its
entry. -/
theorem lookup_ofList_of_mem {l : List (String × α)} (hnd : (l.map (·.1)).Nodup) {k : String}
    {v : α} (h : (k, v) ∈ l) : lookup (ofList l) k = some v := by
  refine lookup_ofList_eq ⟨v, h⟩ fun w hw => ?_
  have he := List.inj_on_of_nodup_map hnd hw h rfl
  simp only [Prod.mk.injEq, true_and] at he
  exact he

/-- A map built from entries keeps its keys in ascending order. -/
theorem ordered_ofList (l : List (String × α)) : Ordered (ofList l) := by
  suffices h : ∀ acc : List (String × α), Ordered acc →
      Ordered (l.foldl (fun acc e => put acc e.1 e.2) acc) from h [] List.Pairwise.nil
  induction l with
  | nil => exact fun acc h => h
  | cons e rest ih => exact fun acc h => ih _ (ordered_put h e.1 e.2)

/-- A key with no entry looks up nothing. -/
theorem lookup_eq_none {es : List (String × α)} {k : String} (h : k ∉ es.map (·.1)) :
    lookup es k = none := by
  cases hl : lookup es k with
  | none => rfl
  | some v => exact absurd (List.mem_map_of_mem (f := (·.1)) (mem_of_lookup hl)) h

/-- The first key of an ordered map is not among the rest. -/
theorem lookup_tail_self {k : String} {v : α} {rest : List (String × α)}
    (h : Ordered ((k, v) :: rest)) : lookup rest k = none := by
  refine lookup_eq_none fun hk => ?_
  obtain ⟨e, he, rfl⟩ := List.mem_map.1 hk
  exact lt_irrefl _ ((List.pairwise_cons.1 h).1 e he)

/-- The first key of an ordered map is its least key. -/
theorem head_le_of_lookup {k j : String} {v w : α} {rest : List (String × α)}
    (h : Ordered ((k, v) :: rest)) (hl : lookup ((k, v) :: rest) j = some w) : k ≤ j := by
  rcases List.mem_cons.1 (mem_of_lookup hl) with he | hmem
  · rw [(Prod.mk.inj he).1]
  · exact ((List.pairwise_cons.1 h).1 _ hmem).le

/-- Two ordered maps that answer every key alike are the same list.  The first
key of each map is its least key, and each map holds the other's. -/
theorem ext_ordered {a b : List (String × α)} (ha : Ordered a) (hb : Ordered b)
    (h : ∀ k, lookup a k = lookup b k) : a = b := by
  induction a generalizing b with
  | nil =>
    cases b with
    | nil => rfl
    | cons e rest =>
      have := h e.1
      simp [lookup] at this
  | cons e rest ih =>
    obtain ⟨k, v⟩ := e
    cases b with
    | nil =>
      have := h k
      simp [lookup] at this
    | cons e' rest' =>
      obtain ⟨k', v'⟩ := e'
      have hk : k = k' := by
        have h₁ : lookup ((k, v) :: rest) k' = some v' := by simpa [lookup] using h k'
        have h₂ : lookup ((k', v') :: rest') k = some v := by simpa [lookup] using (h k).symm
        exact le_antisymm (head_le_of_lookup ha h₁) (head_le_of_lookup hb h₂)
      subst hk
      have hv : v = v' := by simpa [lookup] using h k
      subst hv
      have htail : ∀ j, lookup rest j = lookup rest' j := by
        intro j
        by_cases hj : k = j
        · subst hj
          rw [lookup_tail_self ha, lookup_tail_self hb]
        · simpa [lookup, hj] using h j
      rw [ih (List.pairwise_cons.1 ha).2 (List.pairwise_cons.1 hb).2 htail]

end Keyed

end CareerInsight
