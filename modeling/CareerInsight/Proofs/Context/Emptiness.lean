import Mathlib
import CareerInsight.Proofs.Context.Clean

/-!
# When the context block is empty

The handler turns a request away when every context value is blank
(`contextIsEmpty`), and otherwise renders the context into the prompt.  The
two use different tests.  Rendering drops an entry when the clean name or
the clean value is empty, and cleaning can empty a text that is not blank: a
name with no characters, a value made only of markers, a length limit of
zero.  So a context the handler accepts can still render to nothing.

What does hold is one direction and an exact description of the other:

* `isBlank_eq_false_of_sanitize`: a clean text that is not empty comes from
  a raw text that is not blank.  Its first character is not `White_Space`
  (the trim), and cleaning only deletes characters.
* `renderContext_eq_empty_iff`: the block is empty exactly when every entry
  loses its name or its value to cleaning.
* `renderContext_ne_empty_iff`: the block is not empty exactly when some
  entry keeps both sides, and then the handler accepts the context.
* `unnamed_entry_renders_empty`: the converse fails for an entry with an
  empty name and a value that is not blank.
-/

/-- Texts joined by a separator are not empty when the first is not. -/
theorem String.intercalate_cons_ne_empty {sep t : String} (l : List String) (ht : t ≠ "") :
    sep.intercalate (t :: l) ≠ "" := by
  cases l with
  | nil => rwa [String.intercalate_singleton]
  | cons u l =>
    rw [String.intercalate_cons_cons]
    exact fun h => ht (String.append_eq_empty_iff.1 (String.append_eq_empty_iff.1 h).1).1

namespace CareerInsight

/-! ## What cleaning keeps -/

/-- The clean text is what the cleaning loop leaves, trimmed and cut. -/
theorem sanitize_toList (raw : String) (maxLength : Nat) :
    (sanitize raw maxLength).1.toList =
      (stripMarkers ((raw.toList.filter keepsChar).length + 1) (raw.toList.filter keepsChar)
        []).1.trimUnicode.take maxLength := by
  rw [sanitize_eq_of_stripMarkers Prod.mk.eta.symm maxLength, String.toList_ofList]

/-- A clean text is a sublist of its raw text: the filter and the marker
passes delete characters, and the trim and the cut keep an infix. -/
theorem sanitize_sublist (raw : String) (maxLength : Nat) :
    (sanitize raw maxLength).1.toList.Sublist raw.toList := by
  rw [sanitize_toList]
  exact (List.take_prefix _ _).sublist.trans ((List.trimUnicode_infix _).sublist.trans
    ((stripMarkers_sublist _ _ []).trans List.filter_sublist))

/-- A clean text that is not empty starts with a character that is not
`White_Space`. -/
theorem exists_not_space_of_sanitize {raw : String} {maxLength : Nat}
    (h : (sanitize raw maxLength).1 ≠ "") :
    ∃ c ∈ (sanitize raw maxLength).1.toList, c.isUnicodeSpace = false := by
  have hne : (sanitize raw maxLength).1.toList ≠ [] := fun h0 => h (String.toList_eq_nil_iff.1 h0)
  rw [sanitize_toList] at hne ⊢
  refine ⟨_, List.head_mem hne, ?_⟩
  rw [List.head_take]
  exact List.trimUnicode_head _ _

/-- A clean text that is not empty comes from a raw text that is not blank. -/
theorem isBlank_eq_false_of_sanitize {raw : String} {maxLength : Nat}
    (h : (sanitize raw maxLength).1 ≠ "") : raw.isBlank = false := by
  obtain ⟨c, hc, hspace⟩ := exists_not_space_of_sanitize h
  have hraw : c ∈ raw.toList := (sanitize_sublist raw maxLength).subset hc
  rw [String.isBlank, Bool.eq_false_iff, ne_eq, List.all_eq_true]
  intro hall
  rw [hall c hraw] at hspace
  cases hspace

/-! ## The lines of the block -/

/-- An entry gives a line exactly when its clean name and clean value are
both non-empty. -/
theorem contextLine_eq_none_iff (limit : Nat) (e : String × String) :
    contextLine limit e = none ↔
      (sanitize e.1 contextKeyChars).1 = "" ∨ (sanitize e.2 limit).1 = "" := by
  unfold contextLine
  dsimp only
  rw [← String.isEmpty_iff, ← String.isEmpty_iff, ← Bool.or_eq_true]
  cases (sanitize e.1 contextKeyChars).1.isEmpty || (sanitize e.2 limit).1.isEmpty <;> simp

/-- A line is never empty: it holds the separator between name and value. -/
theorem contextLine_ne_empty {limit : Nat} {e : String × String} {line : String}
    (h : contextLine limit e = some line) : line ≠ "" := by
  unfold contextLine at h
  dsimp only at h
  split at h
  · cases h
  · rw [Option.some.injEq] at h
    subst h
    intro h0
    have hsep := (String.append_eq_empty_iff.1 (String.append_eq_empty_iff.1 h0).1).2
    exact absurd hsep (by decide)

/-! ## The block as a whole -/

/-- The context block is empty exactly when every entry loses its name or its
value to cleaning.  Every line is nonempty, so only the join of no lines is
empty. -/
theorem renderContext_eq_empty_iff (p : Policy) (context : List (String × String))
    (maxChars : Nat) :
    p.renderContext context maxChars = "" ↔ ∀ e ∈ context,
      (sanitize e.1 contextKeyChars).1 = "" ∨
        (sanitize e.2 (min maxChars p.contextMaxChars)).1 = "" := by
  have hlines : p.renderContext context maxChars = "" ↔
      context.filterMap (contextLine (min maxChars p.contextMaxChars)) = [] := by
    rw [Policy.renderContext]
    cases hls : context.filterMap (contextLine (min maxChars p.contextMaxChars)) with
    | nil => simp
    | cons line rest =>
      have hline : contextLine _ _ = some line :=
        (List.mem_filterMap.1 (hls ▸ List.mem_cons_self)).choose_spec.2
      simpa using String.intercalate_cons_ne_empty rest (contextLine_ne_empty hline)
  rw [hlines, List.filterMap_eq_nil_iff]
  exact forall₂_congr fun e _ => contextLine_eq_none_iff _ e

/-- The context block is not empty exactly when some entry keeps a clean
name and a clean value; such a context passes the handler's emptiness
check.  The converse of the check fails: a name that cleans to nothing drops
a value that is not blank. -/
theorem renderContext_ne_empty_iff (p : Policy) (context : List (String × String))
    (maxChars : Nat) :
    (p.renderContext context maxChars ≠ "" ↔ ∃ e ∈ context,
      (sanitize e.1 contextKeyChars).1 ≠ "" ∧
        (sanitize e.2 (min maxChars p.contextMaxChars)).1 ≠ "") ∧
    (p.renderContext context maxChars ≠ "" → contextIsEmpty context = false) := by
  have hiff : p.renderContext context maxChars ≠ "" ↔ ∃ e ∈ context,
      (sanitize e.1 contextKeyChars).1 ≠ "" ∧
        (sanitize e.2 (min maxChars p.contextMaxChars)).1 ≠ "" := by
    rw [ne_eq, renderContext_eq_empty_iff]
    simp only [not_forall, not_or, exists_prop]
  refine ⟨hiff, fun hne => ?_⟩
  obtain ⟨e, he, -, hvalue⟩ := hiff.1 hne
  rw [contextIsEmpty, Bool.eq_false_iff, ne_eq, List.all_eq_true]
  intro hall
  have hblank : e.2.isBlank = true := hall e he
  rw [isBlank_eq_false_of_sanitize hvalue] at hblank
  cases hblank

/-- A context that the handler accepts can still render an empty block: its
only value is not blank, but its name is empty, so cleaning drops the entry. -/
theorem unnamed_entry_renders_empty :
    contextIsEmpty [("", "hello")] = false ∧
      Policy.careerTrajectory.renderContext [("", "hello")] 4000 = "" := by
  decide +kernel

end CareerInsight
