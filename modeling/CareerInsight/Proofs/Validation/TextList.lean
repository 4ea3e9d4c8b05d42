import Mathlib
import CareerInsight.Proofs.Validation.Revalidate

/-!
# Text lists as a deduplication

`Payload.keepTextList` reads a text list in one pass: each string item is
trimmed and added unless it is empty or already kept, and the kept texts are
then cut to the limit.  This file states the same list as a composition of
list operations (`Payload.distinctTexts`): the string items, trimmed, with
the blank ones left out, each text at its first occurrence
(`List.eraseDups`), cut to the limit.

* `Payload.foldl_keepItem`: reading items onto kept texts appends the
  texts of the items that are not kept yet, each at its first occurrence.
  The pass interleaves filtering and the duplicate check; the reference
  does them one after the other.
* `Payload.keepTextList_eq_distinctTexts`: the list kept is the reference;
  it is at most the limit long, its texts are distinct, trimmed and not
  blank, and it is read back as it is, with no repair.
-/

namespace CareerInsight

namespace Payload

/-- The texts of the string items of an array, trimmed, with the blank ones
left out, in order. -/
def itemTexts (items : List Json) : List String :=
  ((items.filterMap Json.asString?).map String.trimUnicode).filter fun t => !t.isBlank

/-- A text list as a composition of list operations: the texts of an
array's string items, each at its first occurrence, at most `maxItems` of
them; nothing for a value that is not an array. -/
def distinctTexts (value : Option Json) (maxItems : Nat) : List String :=
  match value with
  | some (.array items) => (itemTexts items).eraseDups.take maxItems
  | _ => []

/-- A trimmed text is blank exactly when it is empty. -/
theorem isBlank_trimUnicode (s : String) : s.trimUnicode.isBlank = s.trimUnicode.isEmpty := by
  rw [Bool.eq_iff_iff, String.isBlank_iff_trimUnicode, String.trimUnicode_trimUnicode]

theorem itemTexts_nil : itemTexts [] = [] := rfl

theorem itemTexts_string_cons (s : String) (rest : List Json) :
    itemTexts (.string s :: rest) =
      if s.trimUnicode.isEmpty then itemTexts rest else s.trimUnicode :: itemTexts rest := by
  simp only [itemTexts, List.filterMap_cons, Json.asString?, List.map_cons, List.filter_cons,
    isBlank_trimUnicode]
  cases s.trimUnicode.isEmpty <;> rfl

theorem itemTexts_cons_of_asString {item : Json} (h : item.asString? = none) (rest : List Json) :
    itemTexts (item :: rest) = itemTexts rest := by
  simp only [itemTexts, List.filterMap_cons, h]

/-- Leaving out one more text after the kept ones is leaving out the kept
ones and that text. -/
theorem removeAll_filter_ne (l kept : List String) (t : String) :
    (l.removeAll kept).filter (fun b => !b == t) = l.removeAll (kept ++ [t]) := by
  simp only [List.removeAll, List.filter_filter]
  refine List.filter_congr fun x _ => ?_
  by_cases hx : x = t <;> simp [hx]

/-- Reading items onto kept texts appends the texts of the items that are
not kept yet, each at its first occurrence. -/
theorem foldl_keepItem (items : List Json) (kept : List String) :
    items.foldl keepItem kept = kept ++ ((itemTexts items).removeAll kept).eraseDups := by
  induction items generalizing kept with
  | nil => simp [itemTexts_nil]
  | cons item rest ih =>
    rw [List.foldl_cons, ih]
    cases item with
    | string s =>
      rw [itemTexts_string_cons]
      by_cases hempty : s.trimUnicode.isEmpty = true
      · simp [keepItem, hempty]
      by_cases hkept : kept.contains s.trimUnicode = true
      · have hmem : s.trimUnicode ∈ kept := List.contains_iff_mem.1 hkept
        simp [keepItem, hempty, hmem, List.cons_removeAll]
      · have hnew : s.trimUnicode ∉ kept := fun h => hkept (List.contains_iff_mem.2 h)
        have hstep : keepItem kept (.string s) = kept ++ [s.trimUnicode] := by
          simp [keepItem, hempty, hnew]
        simp only [Bool.not_eq_true] at hempty hkept
        rw [hstep, if_neg (by simp [hempty]), List.cons_removeAll, if_pos hkept,
          List.eraseDups_cons, removeAll_filter_ne, List.append_assoc, List.singleton_append]
    | null | bool _ | number _ | array _ | object _ =>
      rw [itemTexts_cons_of_asString rfl]
      rfl

/-- The usable items of an array are its item texts, each at its first
occurrence. -/
theorem usableItems_eq (items : List Json) :
    usableItems (some (.array items)) = (itemTexts items).eraseDups := by
  rw [usableItems, foldl_keepItem, List.removeAll_nil, List.nil_append]

/-- A text list is the reference list: the trimmed, non-blank string items,
each at its first occurrence, cut to the limit.  So it is at most the limit
long, its texts are distinct, trimmed and not blank, and written back as
JSON it is read as it is, with no repair. -/
theorem keepTextList_eq_distinctTexts (value : Option Json) (maxItems : Nat) :
    keepTextList value maxItems = distinctTexts value maxItems ∧
      (keepTextList value maxItems).length ≤ maxItems ∧
      (keepTextList value maxItems).Nodup ∧
      (∀ t ∈ keepTextList value maxItems, t.trimUnicode = t ∧ t.isBlank = false) ∧
      keepTextList (some (Json.ofStrings (keepTextList value maxItems))) maxItems =
        keepTextList value maxItems ∧
      textListRepair (some (Json.ofStrings (keepTextList value maxItems))) maxItems = none := by
  have href : keepTextList value maxItems = distinctTexts value maxItems := by
    unfold keepTextList distinctTexts
    split
    · rw [usableItems_eq]
    · simp [usableItems]
  obtain ⟨hnd, hclean⟩ := clean_keepTextList value maxItems
  refine ⟨href, length_keepTextList_le maxItems, hnd, fun t ht => ?_,
    keepTextList_keepTextList value maxItems, textListRepair_keepTextList value maxItems⟩
  obtain ⟨htrim, hne⟩ := hclean t ht
  refine ⟨htrim, ?_⟩
  rw [← htrim, isBlank_trimUnicode, htrim, hne]

example :
    keepTextList (some (.array [.string " Rust ", .number (.natural 3), .string "  ",
      .string "Rust", .string "Go"])) 5 = ["Rust", "Go"] := by
  decide

end Payload

end CareerInsight
