import CareerInsight.Proofs.Context.Markers

/-!
# The cleaning loop stops

Cleaning repeats passes over the markers until a whole pass finds none.
Since removing one occurrence can join its neighbours into a new one, the
number of passes is not bounded by the number of occurrences in the raw
text.  The bound comes from the length of the text instead:

* `Pattern.minLength` is the fewest characters a match passes over, and
  `Marker.consumed_lt_of_mem_ends` says that every injection marker has
  it positive: no marker matches the empty text.  So a marker that occurs
  is removed character by character, and a pass that finds one shortens the
  text (`markerPass_shortens`).
* `MarkerLoop` is the loop as the service runs it, with no bound on the
  passes: a pass that changed nothing ends it.  `markerLoop_stripMarkers`
  shows that the bounded passes of `stripMarkers` always reach that end,
  and `MarkerLoop.passes_le` that it comes after at most one pass more than
  the text has characters.
* `sanitize_loop_terminates`: for every raw text the loop stops within
  that many passes, with one result, and `sanitize` is computed from it.
-/

namespace CareerInsight

/-! ## Matches are never empty -/

namespace Spot

theorem consumed_skip (s : Spot) (n : Nat) :
    (s.skip n).consumed = s.consumed + min n s.after.length := by
  induction n generalizing s with
  | zero => simp [skip]
  | succ n ih =>
    unfold skip
    split
    · next h => simp [h]
    · next c rest h =>
      rw [ih]
      simp only [h, List.length_cons]
      omega

theorem after_skip (s : Spot) (n : Nat) : (s.skip n).after = s.after.drop n := by
  induction n generalizing s with
  | zero => rfl
  | succ n ih =>
    unfold skip
    split
    · next h => simp [h]
    · next c rest h => rw [ih, h, List.drop_succ_cons]

end Spot

namespace Pattern

/-- The fewest characters a match of the pattern passes over. -/
def minLength : Pattern → Nat
  | one _ => 1
  | run _ least => least
  | wordBoundary => 0
  | lineStart => 0
  | seq p q => p.minLength + q.minLength
  | alt p q => min p.minLength q.minLength
  | opt _ => 0

/-- Every match passes over at least `minLength` characters. -/
theorem consumed_le_of_mem_ends {p : Pattern} {s t : Spot} (h : t ∈ p.ends s) :
    s.consumed + p.minLength ≤ t.consumed := by
  induction p generalizing s t with
  | one cls =>
    simp only [ends] at h
    split at h
    · split at h
      · simp only [List.mem_singleton] at h
        subst h
        rfl
      · cases h
    · cases h
  | run cls least =>
    simp only [ends, List.mem_map, List.mem_filter, List.mem_reverse, List.mem_range,
      decide_eq_true_eq] at h
    obtain ⟨k, ⟨hk, hleast⟩, rfl⟩ := h
    have hrun : (s.after.takeWhile cls.test).length ≤ s.after.length :=
      (List.takeWhile_sublist _).length_le
    rw [Spot.consumed_skip]
    simp only [minLength]
    omega
  | wordBoundary =>
    simp only [ends] at h
    split at h
    · simp only [List.mem_singleton] at h
      subst h
      simp [minLength]
    · cases h
  | lineStart =>
    simp only [ends] at h
    split at h
    · simp only [List.mem_singleton] at h
      subst h
      simp [minLength]
    · cases h
  | seq p q ihp ihq =>
    simp only [ends, List.mem_flatMap] at h
    obtain ⟨u, hu, ht⟩ := h
    have h₁ := ihp hu
    have h₂ := ihq ht
    simp only [minLength]
    omega
  | alt p q ihp ihq =>
    simp only [ends, List.mem_append] at h
    simp only [minLength]
    rcases h with h | h
    · have := ihp h
      omega
    · have := ihq h
      omega
  | opt p ihp =>
    simp only [ends, List.mem_append, List.mem_singleton] at h
    simp only [minLength, Nat.add_zero]
    rcases h with h | rfl
    · have := ihp h
      omega
    · exact le_refl _

end Pattern

namespace Marker

theorem minLength_pos : ∀ m ∈ Marker.all, 0 < m.pattern.minLength := by
  decide

/-- No injection marker matches the empty text: every match passes over a
character. -/
theorem consumed_lt_of_mem_ends {m : Marker} (hm : m ∈ Marker.all) {s t : Spot}
    (h : t ∈ m.pattern.ends s) : s.consumed < t.consumed := by
  have := Pattern.consumed_le_of_mem_ends h
  have := minLength_pos m hm
  omega

end Marker

/-! ## The loop with no bound on its passes -/

/-- A pass that finds a marker shortens the text. -/
theorem markerPass_shortens {text : List Char} {found : List String}
    (h : (markerPass text found).2.2 = true) : (markerPass text found).1.length < text.length := by
  rw [markerPass_eq] at h ⊢
  exact length_foldl_markerStep_lt Marker.all (text, found, false) rfl h

/-- The cleaning loop as the service runs it: a pass that finds a marker
is followed by another one, and a pass that finds none ends the loop.
`MarkerLoop text found n r` says that the loop started on `text` with the
names `found` makes `n` passes, the last included, and ends with `r`. -/
inductive MarkerLoop : List Char → List String → Nat → List Char × List String → Prop
  | stop {text : List Char} {found : List String} {t : List Char} {names : List String} :
      markerPass text found = (t, names, false) → MarkerLoop text found 1 (t, names)
  | next {text : List Char} {found : List String} {t : List Char} {names : List String} {n : Nat}
      {r : List Char × List String} :
      markerPass text found = (t, names, true) → MarkerLoop t names n r →
      MarkerLoop text found (n + 1) r

namespace MarkerLoop

/-- Each pass before the last removes a character, so the loop makes at
most one pass more than the text has characters. -/
theorem passes_le {text : List Char} {found : List String} {n : Nat} {r : List Char × List String}
    (h : MarkerLoop text found n r) : n ≤ text.length + 1 := by
  induction h with
  | stop _ => omega
  | next hpass _ ih =>
    have := length_lt_of_markerPass hpass
    omega

/-- The loop is deterministic: one number of passes and one result. -/
theorem unique {text : List Char} {found : List String} {n n' : Nat}
    {r r' : List Char × List String} (h : MarkerLoop text found n r)
    (h' : MarkerLoop text found n' r') : n = n' ∧ r = r' := by
  induction h generalizing n' r' with
  | stop hpass =>
    cases h' with
    | stop hpass' =>
      rw [hpass] at hpass'
      cases hpass'
      exact ⟨rfl, rfl⟩
    | next hpass' _ =>
      rw [hpass] at hpass'
      cases hpass'
  | next hpass _ ih =>
    cases h' with
    | stop hpass' =>
      rw [hpass] at hpass'
      cases hpass'
    | next hpass' hrest =>
      rw [hpass] at hpass'
      cases hpass'
      obtain ⟨rfl, rfl⟩ := ih hrest
      exact ⟨rfl, rfl⟩

end MarkerLoop

/-- With more passes allowed than the text has characters, `stripMarkers` runs
the whole loop: it ends where a pass finds nothing.  A pass that finds a
marker shortens the text, so the passes left still suffice. -/
theorem markerLoop_stripMarkers (fuel : Nat) (text : List Char) (found : List String)
    (h : text.length < fuel) : ∃ n, MarkerLoop text found n (stripMarkers fuel text found) := by
  induction fuel generalizing text found with
  | zero => cases h
  | succ fuel ih =>
    rw [stripMarkers]
    generalize hpass : markerPass text found = r
    obtain ⟨t, names, changed⟩ := r
    cases changed with
    | true =>
      obtain ⟨n, hn⟩ := ih t names (by have := length_lt_of_markerPass hpass; omega)
      exact ⟨n + 1, .next hpass hn⟩
    | false => exact ⟨1, .stop hpass⟩

/-- `sanitize` trims and cuts what the cleaning loop leaves. -/
theorem sanitize_eq_of_stripMarkers {raw : String} {text : List Char} {found : List String}
    (h : stripMarkers ((raw.toList.filter keepsChar).length + 1) (raw.toList.filter keepsChar) [] =
      (text, found)) (maxLength : Nat) :
    sanitize raw maxLength = (String.ofList (text.trimUnicode.take maxLength),
      ⟨found, maxLength < text.trimUnicode.length,
        raw.length - (text.trimUnicode.take maxLength).length⟩) := by
  unfold sanitize
  dsimp only
  rw [h]

/-- Cleaning always stops: no marker matches the empty text, so a pass that
finds one shortens the text, and the loop over the filtered raw text ends
after at most one pass more than it has characters.  It ends in one way
only, and `sanitize` trims and cuts what it leaves. -/
theorem sanitize_loop_terminates (raw : String) :
    (∀ m ∈ Marker.all, ∀ s t, t ∈ m.pattern.ends s → s.consumed < t.consumed) ∧
    (∀ text found, (markerPass text found).2.2 = true →
      (markerPass text found).1.length < text.length) ∧
    ∃ n text found, n ≤ (raw.toList.filter keepsChar).length + 1 ∧
      MarkerLoop (raw.toList.filter keepsChar) [] n (text, found) ∧
      (∀ n' r, MarkerLoop (raw.toList.filter keepsChar) [] n' r → n' = n ∧ r = (text, found)) ∧
      ∀ maxLength, sanitize raw maxLength = (String.ofList (text.trimUnicode.take maxLength),
        ⟨found, maxLength < text.trimUnicode.length,
          raw.length - (text.trimUnicode.take maxLength).length⟩) := by
  refine ⟨fun m hm s t h => Marker.consumed_lt_of_mem_ends hm h, fun _ _ h => markerPass_shortens h,
    ?_⟩
  obtain ⟨n, hloop⟩ := markerLoop_stripMarkers ((raw.toList.filter keepsChar).length + 1)
    (raw.toList.filter keepsChar) [] (Nat.lt_succ_self _)
  generalize hr : stripMarkers ((raw.toList.filter keepsChar).length + 1)
    (raw.toList.filter keepsChar) [] = r at hloop
  obtain ⟨text, found⟩ := r
  refine ⟨n, text, found, hloop.passes_le, hloop, fun n' r' h' => ?_, fun maxLength => ?_⟩
  · obtain ⟨rfl, rfl⟩ := hloop.unique h'
    exact ⟨rfl, rfl⟩
  · exact sanitize_eq_of_stripMarkers hr maxLength

end CareerInsight
