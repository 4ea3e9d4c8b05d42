import Mathlib
import CareerInsight.Gateway.Reply
import CareerInsight.Json.Print
import CareerInsight.Proofs.Validation.Revalidate

/-!
# Reading a fenced reply

A model may wrap its JSON in a code fence, with or without a `json` tag
and with any blanks around the JSON.  `stripFences` unwraps the text and
`parseObject` reads what is left.  This file shows that the wrapping does
not matter: a serialized object is read back the same bare, inside a
tagged fence and inside a bare fence, whatever `White_Space` surrounds it,
as long as the reader inverts the writer on that object.

* `List.trimUnicode_framed`: trimming a text whose first and last
  characters are not blanks, with blanks around it, gives the text back.
* `stripFences_of_opened`: once an opening fence is removed, what is left
  is blanks, the core, blanks and the closing fence, and the unwrapped
  text is the core.  `stripFences_tagged` and `stripFences_bare` are its
  two uses, and `stripFences_of_unwrappable` covers a text with no fence.
* `parseObject_error_iff`: the three failures, named by the unwrapped
  text.
* `parseObject_compact`: the main statement.
-/

/-! ## Trimming a framed text -/

/-- Trimming a text whose first and last characters are not blanks, with
blanks on both sides, gives the text. -/
theorem List.trimUnicode_framed {ws₁ cs ws₂ : List Char}
    (h₁ : ∀ c ∈ ws₁, c.isUnicodeSpace = true) (h₂ : ∀ c ∈ ws₂, c.isUnicodeSpace = true)
    (hh : ∀ c ∈ cs.head?, c.isUnicodeSpace = false)
    (hl : ∀ c ∈ cs.getLast?, c.isUnicodeSpace = false) :
    (ws₁ ++ cs ++ ws₂).trimUnicode = cs := by
  by_cases hnil : cs = []
  · subst hnil
    rw [List.trimUnicode_eq_nil_iff, List.all_eq_true]
    intro c hc
    rw [List.append_nil, List.mem_append] at hc
    exact hc.elim (h₁ c) (h₂ c)
  have hfront : (ws₁ ++ cs ++ ws₂).dropWhile Char.isUnicodeSpace = cs ++ ws₂ := by
    rw [List.append_assoc, List.dropWhile_append_of_pos h₁]
    exact List.dropWhile_of_head (by simp [hnil]) (by
      rw [List.head_append_of_ne_nil hnil]
      exact hh _ (List.head?_eq_some_head hnil))
  have hback : (ws₂.reverse ++ cs.reverse).dropWhile Char.isUnicodeSpace = cs.reverse := by
    rw [List.dropWhile_append_of_pos (fun c hc => h₂ c (List.mem_reverse.1 hc))]
    exact List.dropWhile_of_head (by simp [hnil]) (by
      rw [List.head_reverse]
      exact hl _ (List.getLast?_eq_some_getLast hnil))
  rw [List.trimUnicode, hfront, List.reverse_append, hback, List.reverse_reverse]

/-- A text whose first and last characters are not blanks is its own
trimming. -/
theorem List.trimUnicode_of_ends {cs : List Char} (hh : ∀ c ∈ cs.head?, c.isUnicodeSpace = false)
    (hl : ∀ c ∈ cs.getLast?, c.isUnicodeSpace = false) : cs.trimUnicode = cs := by
  have h := @List.trimUnicode_framed [] cs [] (by simp) (by simp) hh hl
  rwa [List.nil_append, List.append_nil] at h

namespace CareerInsight

/-! ## Removing a prefix -/

theorem afterPrefix?_append (pre rest : List Char) : afterPrefix? pre (pre ++ rest) = some rest := by
  simp [afterPrefix?]

theorem afterPrefix?_eq_none {pre cs : List Char} (h : ¬ pre <+: cs) : afterPrefix? pre cs = none := by
  simp [afterPrefix?, h]

/-! ## Unwrapping -/

/-- The fence that opens and closes a code block. -/
def fence : List Char := "```".toList

/-- A text that unwrapping cannot eat into: it is not empty, its first
character is not a blank, a backtick or a `j` (which a fence tag starts
with), and its last character is not a blank. -/
structure Unwrappable (cs : List Char) : Prop where
  ne_nil : cs ≠ []
  head : ∀ c ∈ cs.head?, c.isUnicodeSpace = false ∧ c ≠ '`' ∧ c ≠ 'j'
  last : ∀ c ∈ cs.getLast?, c.isUnicodeSpace = false

/-- A list that starts with another character than `a` does not start
with `a`. -/
theorem not_prefix_of_head {a : Char} {rest cs : List Char} (h : ∀ c ∈ cs.head?, c ≠ a) :
    ¬ (a :: rest) <+: cs := by
  rintro ⟨t, rfl⟩
  exact h a rfl rfl

theorem head?_ne_of_spaces {ws cs : List Char} {a : Char} (ha : a.isUnicodeSpace = false)
    (hws : ∀ c ∈ ws, c.isUnicodeSpace = true) (h : ∀ c ∈ cs.head?, c ≠ a) :
    ∀ c ∈ (ws ++ cs).head?, c ≠ a := by
  intro c hc
  rw [List.head?_append] at hc
  cases hw : ws.head? with
  | none =>
    rw [hw, Option.none_or] at hc
    exact h c hc
  | some w =>
    rw [hw, Option.some_or, Option.mem_some_iff] at hc
    subst hc
    intro hca
    have := hws w (List.mem_of_head? hw)
    rw [hca, ha] at this
    cases this

/-- After an opening fence: blanks, the core, blanks and the closing fence
unwrap to the core. -/
theorem stripFences_of_opened {text : String} {ws₁ core ws₂ : List Char}
    (htrim : text.toList.trimUnicode = text.toList)
    (hopen : (afterPrefix? "```json".toList text.toList).orElse (fun _ => afterPrefix? fence text.toList) =
      some (ws₁ ++ core ++ ws₂ ++ fence))
    (h₁ : ∀ c ∈ ws₁, c.isUnicodeSpace = true) (h₂ : ∀ c ∈ ws₂, c.isUnicodeSpace = true)
    (hne : core ≠ []) (hh : ∀ c ∈ core.head?, c.isUnicodeSpace = false)
    (hl : ∀ c ∈ core.getLast?, c.isUnicodeSpace = false) :
    stripFences text = String.ofList core := by
  have hdrop : (ws₁ ++ core ++ ws₂ ++ fence).dropWhile Char.isUnicodeSpace = core ++ ws₂ ++ fence := by
    rw [List.append_assoc, List.append_assoc, List.dropWhile_append_of_pos h₁]
    cases core with
    | nil => exact absurd rfl hne
    | cons c rest =>
      rw [List.cons_append, List.dropWhile_cons, if_neg (by simp [hh c rfl])]
      simp
  have hclose : afterPrefix? fence.reverse (core ++ ws₂ ++ fence).reverse =
      some (core ++ ws₂).reverse := by
    rw [List.reverse_append, afterPrefix?_append]
  simp only [stripFences, htrim]
  rw [show "```".toList = fence from rfl, hopen]
  dsimp only
  rw [hdrop, hclose]
  dsimp only
  have hcore := @List.trimUnicode_framed [] core ws₂ (by simp) h₂ hh hl
  rw [List.nil_append] at hcore
  rw [List.reverse_reverse, hcore]

theorem fence_eq : fence = ['`', '`', '`'] := by decide

/-- A text from a backtick to a closing fence is its own trimming. -/
theorem trimUnicode_fenced {pre inner : List Char} (hpre : pre.head? = some '`') :
    (pre ++ inner ++ fence).trimUnicode = pre ++ inner ++ fence := by
  apply List.trimUnicode_of_ends
  · intro c hc
    rw [List.append_assoc, List.head?_append, hpre, Option.some_or, Option.mem_some_iff] at hc
    rw [← hc]
    decide
  · intro c hc
    rw [fence_eq, List.getLast?_append, List.getLast?_cons_cons, List.getLast?_cons_cons,
      List.getLast?_singleton, Option.some_or, Option.mem_some_iff] at hc
    rw [← hc]
    decide

/-- An opening that starts with a backtick, blanks, a core that unwrapping
cannot eat into, blanks and a closing fence unwrap to the core, when the
opening is what is removed. -/
theorem stripFences_fenced {text ws₁ core ws₂ : String} {pre : List Char}
    (htext : text.toList = pre ++ (ws₁.toList ++ core.toList ++ ws₂.toList ++ fence))
    (hpre : pre.head? = some '`')
    (hopen : (afterPrefix? "```json".toList text.toList).orElse (fun _ => afterPrefix? fence text.toList) =
      some (ws₁.toList ++ core.toList ++ ws₂.toList ++ fence))
    (h₁ : ws₁.isBlank = true) (h₂ : ws₂.isBlank = true) (hc : Unwrappable core.toList) :
    stripFences text = core := by
  refine (stripFences_of_opened ?_ hopen (List.all_eq_true.1 h₁) (List.all_eq_true.1 h₂) hc.ne_nil
    (fun c h => (hc.head c h).1) hc.last).trans String.ofList_toList
  rw [htext, ← List.append_assoc, ← List.append_assoc, ← List.append_assoc]
  exact trimUnicode_fenced (by rw [List.append_assoc, List.head?_append, hpre, Option.some_or])

/-- A tagged fence around blanks, a core and blanks unwraps to the core. -/
theorem stripFences_tagged {ws₁ core ws₂ : String} (h₁ : ws₁.isBlank = true) (h₂ : ws₂.isBlank = true)
    (hc : Unwrappable core.toList) :
    stripFences ("```json" ++ ws₁ ++ core ++ ws₂ ++ "```") = core := by
  have htext : ("```json" ++ ws₁ ++ core ++ ws₂ ++ "```").toList =
      "```json".toList ++ (ws₁.toList ++ core.toList ++ ws₂.toList ++ fence) := by
    simp only [String.toList_append, List.append_assoc]
    rfl
  refine stripFences_fenced htext rfl ?_ h₁ h₂ hc
  rw [htext, afterPrefix?_append]
  rfl

/-- A bare fence around blanks, a core and blanks unwraps to the core: the
tag is not taken, since a blank or the core comes where its `j` would. -/
theorem stripFences_bare {ws₁ core ws₂ : String} (h₁ : ws₁.isBlank = true) (h₂ : ws₂.isBlank = true)
    (hc : Unwrappable core.toList) :
    stripFences ("```" ++ ws₁ ++ core ++ ws₂ ++ "```") = core := by
  have htext : ("```" ++ ws₁ ++ core ++ ws₂ ++ "```").toList =
      fence ++ (ws₁.toList ++ core.toList ++ ws₂.toList ++ fence) := by
    simp only [String.toList_append, List.append_assoc]
    rfl
  have hcore : ∀ c ∈ (core.toList ++ (ws₂.toList ++ fence)).head?, c ≠ 'j' := by
    intro c hc'
    rw [List.head?_append_of_ne_nil _ hc.ne_nil] at hc'
    exact (hc.head c hc').2.2
  have hnotag : afterPrefix? "```json".toList (fence ++ (ws₁.toList ++ core.toList ++ ws₂.toList ++ fence)) =
      none := by
    apply afterPrefix?_eq_none
    rw [show "```json".toList = fence ++ ['j', 's', 'o', 'n'] by decide, List.prefix_append_right_inj,
      List.append_assoc, List.append_assoc]
    exact not_prefix_of_head (head?_ne_of_spaces (by decide) (List.all_eq_true.1 h₁) hcore)
  refine stripFences_fenced htext (by rw [fence_eq]; rfl) ?_ h₁ h₂ hc
  rw [htext, hnotag, afterPrefix?_append]
  rfl

example : stripFences "```json\n\x7b\x7d\n```" = "\x7b\x7d" ∧ stripFences " ```\n[1]```" = "[1]" := by
  decide +kernel

/-- A text that unwrapping cannot eat into, with no fence, is its own
unwrapping. -/
theorem stripFences_of_unwrappable {core : String} (hc : Unwrappable core.toList) :
    stripFences core = core := by
  have htrim : core.toList.trimUnicode = core.toList :=
    List.trimUnicode_of_ends (fun c h => (hc.head c h).1) hc.last
  have hbt : ∀ c ∈ core.toList.head?, c ≠ '`' := fun c h => (hc.head c h).2.1
  have htag : afterPrefix? "```json".toList core.toList = none := by
    apply afterPrefix?_eq_none
    rw [show "```json".toList = '`' :: ['`', '`', 'j', 's', 'o', 'n'] by decide]
    exact not_prefix_of_head hbt
  have hfence : afterPrefix? fence core.toList = none := by
    apply afterPrefix?_eq_none
    rw [fence_eq]
    exact not_prefix_of_head hbt
  simp only [stripFences, htrim]
  rw [show "```".toList = fence from rfl, htag, Option.orElse_none, hfence]
  exact String.ofList_toList

/-! ## Serialized objects -/

/-- A serialized object starts with a brace and ends with one. -/
theorem unwrappable_compact (fields : Json.Fields) : Unwrappable (Json.compact (.object fields)).toList := by
  have h : (Json.compact (.object fields)).toList =
      '{' :: ((Json.compactEntries fields).toList ++ ['}']) := by
    simp only [Json.compact, String.toList_append]
    rfl
  rw [h]
  refine ⟨List.cons_ne_nil _ _, ?_, ?_⟩
  · intro c hc
    rw [List.head?_cons, Option.mem_some_iff] at hc
    subst hc
    decide
  · intro c hc
    rw [← List.cons_append, List.getLast?_append, List.getLast?_singleton, Option.some_or,
      Option.mem_some_iff] at hc
    subst hc
    decide

/-! ## Reading the unwrapped text -/

/-- The empty text is no JSON. -/
theorem read_empty : Json.read "" = .error ⟨.eofWhileParsingValue, 1, 0⟩ := rfl

/-- The failures of reading a reply as an object, named by the unwrapped
text: nothing is left, what is left is JSON but not an object, or it is no
JSON at all. -/
theorem parseObject_error_iff (text : String) :
    (parseObject text = .error .emptyContent ↔ stripFences text = "") ∧
    (parseObject text = .error .notAnObject ↔
      ∃ v, Json.read (stripFences text) = .ok v ∧ v.asObject? = none) ∧
    ∀ e, parseObject text = .error (.parse e) ↔
      stripFences text ≠ "" ∧ Json.read (stripFences text) = .error e := by
  unfold parseObject
  by_cases h : stripFences text = ""
  · simp [h, read_empty]
  · have hne : (stripFences text).isEmpty = false := by simpa using h
    simp only [hne, Bool.false_eq_true, if_false, h, ne_eq, not_false_eq_true, true_and]
    cases hr : Json.read (stripFences text) with
    | error e' => simp
    | ok v => cases v <;> simp [Json.asObject?]

/-- An unwrapped text that is a serialized object which the reader reads
back is read as that object. -/
theorem parseObject_of_stripFences {text : String} {m : Json.Fields}
    (h : stripFences text = Json.compact (.object m))
    (hread : Json.read (Json.compact (.object m)) = .ok (.object m)) : parseObject text = .ok m := by
  have hne : (Json.compact (.object m)).isEmpty = false := by
    rw [Bool.eq_false_iff, ne_eq, String.isEmpty_iff]
    intro h0
    exact (unwrappable_compact m).ne_nil (by rw [h0]; rfl)
  simp only [parseObject, h, hne, Bool.false_eq_true, if_false, hread]

/-- A serialized object that the reader reads back is read the same bare,
inside a fence tagged `json` and inside a bare fence, with any blanks
between the fence and the object; and a reply fails as empty exactly when
nothing is left after unwrapping, as not an object exactly when what is
left is JSON of another kind, and as a parse error otherwise. -/
theorem parseObject_compact (m : Json.Fields)
    (hread : Json.read (Json.compact (.object m)) = .ok (.object m))
    {ws₁ ws₂ : String} (h₁ : ws₁.isBlank = true) (h₂ : ws₂.isBlank = true) :
    parseObject (Json.compact (.object m)) = .ok m ∧
    parseObject ("```json" ++ ws₁ ++ Json.compact (.object m) ++ ws₂ ++ "```") = .ok m ∧
    parseObject ("```" ++ ws₁ ++ Json.compact (.object m) ++ ws₂ ++ "```") = .ok m ∧
    ∀ text, (parseObject text = .error .emptyContent ↔ stripFences text = "") ∧
      (parseObject text = .error .notAnObject ↔
        ∃ v, Json.read (stripFences text) = .ok v ∧ v.asObject? = none) ∧
      ∀ e, parseObject text = .error (.parse e) ↔
        stripFences text ≠ "" ∧ Json.read (stripFences text) = .error e := by
  have hc := unwrappable_compact m
  exact ⟨parseObject_of_stripFences (stripFences_of_unwrappable hc) hread,
    parseObject_of_stripFences (stripFences_tagged h₁ h₂ hc) hread,
    parseObject_of_stripFences (stripFences_bare h₁ h₂ hc) hread, parseObject_error_iff⟩

/-- The object of a model reply, with two fields, read back from a fence
with line feeds. -/
theorem skillYears_parseObject_compact :
    Json.read (Json.compact (.object [("skill", .string "Rust"), ("years", .number (.natural 8))])) =
        .ok (.object [("skill", .string "Rust"), ("years", .number (.natural 8))]) ∧
      "\n".isBlank = true ∧ "\n".isBlank = true ∧
      parseObject (Json.compact (.object [("skill", .string "Rust"), ("years", .number (.natural 8))])) =
        .ok [("skill", .string "Rust"), ("years", .number (.natural 8))] ∧
      parseObject ("```json" ++ "\n" ++
          Json.compact (.object [("skill", .string "Rust"), ("years", .number (.natural 8))]) ++
          "\n" ++ "```") = .ok [("skill", .string "Rust"), ("years", .number (.natural 8))] ∧
      parseObject ("```" ++ "\n" ++
          Json.compact (.object [("skill", .string "Rust"), ("years", .number (.natural 8))]) ++
          "\n" ++ "```") = .ok [("skill", .string "Rust"), ("years", .number (.natural 8))] ∧
      ∀ text, (parseObject text = .error .emptyContent ↔ stripFences text = "") ∧
        (parseObject text = .error .notAnObject ↔
          ∃ v, Json.read (stripFences text) = .ok v ∧ v.asObject? = none) ∧
        ∀ e, parseObject text = .error (.parse e) ↔
          stripFences text ≠ "" ∧ Json.read (stripFences text) = .error e := by
  have hread : Json.read (Json.compact (.object [("skill", .string "Rust"),
      ("years", .number (.natural 8))])) =
      .ok (.object [("skill", .string "Rust"), ("years", .number (.natural 8))]) := rfl
  have hws : "\n".isBlank = true := by decide
  exact ⟨hread, hws, hws, parseObject_compact _ hread hws hws⟩

end CareerInsight
