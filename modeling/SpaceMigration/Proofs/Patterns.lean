import Mathlib.Data.List.Basic
import Mathlib.Data.List.Infix
import SpaceMigration.Text.Segment

/-!
# Patterns in a text

`occursIn` is the library's `<:+:`. The occurrences that `removeAll` takes out cut a text into
pieces (`Pieces`): they are found from left to right, so a piece ends where the pattern stands for
the first time. What is left of the text are its pieces, one behind the other
(`Pieces.removeAll_eq`).

No piece holds the pattern, but the text that is left can: its pieces now touch each other.

## Main definitions

* `Pieces` — the pieces of a text between the occurrences of a pattern
* `Cleared` — what is left without the occurrences

## Main results

* `infix_append_cons_iff` — a pattern does not reach across a character that it does not hold
* `Pieces.removeAll_eq`, `cleared_iff` — what the removal of a pattern leaves
-/

namespace SpaceMigration.Text

/-! ### Occurrences -/

/-- A pattern occurs in a text if it is a part of it. -/
theorem occursIn_iff (pattern text : List Char) :
    occursIn pattern text = true ↔ pattern <:+: text := by
  induction text with
  | nil => simp [occursIn]
  | cons c rest ih => rw [occursIn, Bool.or_eq_true, List.isPrefixOf_iff_prefix, ih,
      List.infix_cons_iff]

/-- A pattern does not reach across a character that it does not hold. -/
theorem infix_append_cons_iff {pattern before after : List Char} {c : Char} (hc : c ∉ pattern) :
    pattern <:+: before ++ c :: after ↔ pattern <:+: before ∨ pattern <:+: after := by
  have hstop : ∀ {front : List Char}, c ∉ front → front <+: c :: after → front = [] := by
    intro front hfront hstart
    rcases List.prefix_cons_iff.1 hstart with rfl | ⟨more, rfl, -⟩
    · rfl
    · simp at hfront
  constructor
  · intro h
    rcases List.infix_append_iff.1 h with h | h | ⟨front, back, rfl, hfront, hback⟩
    · exact .inl h
    · rcases List.infix_cons_iff.1 h with h | h
      · rw [hstop hc h]
        exact .inl List.nil_infix
      · exact .inr h
    · obtain rfl := hstop (fun hmem => hc (List.mem_append_right _ hmem)) hback
      rw [List.append_nil]
      exact .inl hfront.isInfix
  · rintro (h | h)
    · exact List.infix_append_of_infix_left h
    · exact List.infix_append_of_infix_right (List.infix_cons h)

/-- A character that the pattern does not hold can be dropped at the front. -/
theorem infix_cons_iff_of_notMem {pattern text : List Char} {c : Char} (hc : c ∉ pattern)
    (hne : pattern ≠ []) : pattern <:+: c :: text ↔ pattern <:+: text := by
  rw [← List.nil_append (c :: text), infix_append_cons_iff hc, List.infix_nil]
  simp [hne]

/-- A pattern occurs in a text exactly if it occurs in a segment between characters that it does not
hold. -/
theorem infix_iff_exists_mem_splitOnP {pattern : List Char} {p : Char → Bool}
    (hp : ∀ c ∈ pattern, p c = false) (text : List Char) :
    pattern <:+: text ↔ ∃ segment ∈ text.splitOnP p, pattern <:+: segment := by
  by_cases hplain : ∀ c ∈ text, p c = false
  · simp [List.splitOnP_eq_singleton hplain]
  · obtain ⟨c, hmem, hc⟩ : ∃ c ∈ text, p c = true := by simpa using hplain
    obtain ⟨before, after, htext⟩ := List.append_of_mem hmem
    have hnotMem : c ∉ pattern := fun h => by simp [hp c h] at hc
    rw [htext, List.splitOnP_append_cons before after hc, infix_append_cons_iff hnotMem,
      infix_iff_exists_mem_splitOnP hp before, infix_iff_exists_mem_splitOnP hp after]
    simp [or_and_right, exists_or]
termination_by text.length
decreasing_by
  · simp [htext]
  · simp [htext]
    omega

/-- A pattern occurs in a joined text exactly if it occurs in one of the texts that are joined. -/
theorem infix_intercalate_iff {pattern : List Char} {c : Char} (hc : c ∉ pattern)
    (hne : pattern ≠ []) (texts : List (List Char)) :
    pattern <:+: [c].intercalate texts ↔ ∃ text ∈ texts, pattern <:+: text := by
  induction texts with
  | nil => simp [hne]
  | cons text rest ih =>
    cases rest with
    | nil => simp
    | cons next rest =>
      rw [List.intercalate_cons_cons, List.append_assoc, List.singleton_append,
        infix_append_cons_iff hc, ih]
      simp

/-- What stands in a joined text stands in one of the texts that are joined, separators apart. -/
theorem mem_intercalate_iff {c separator : Char} (hc : c ≠ separator) (texts : List (List Char)) :
    c ∈ [separator].intercalate texts ↔ ∃ text ∈ texts, c ∈ text := by
  have hpattern : separator ∉ [c] := by simpa using hc.symm
  simpa only [List.singleton_infix_iff] using
    infix_intercalate_iff hpattern (List.cons_ne_nil c []) texts

/-- A joined text ends inside one of the texts that are joined. -/
theorem exists_mem_of_getLast?_intercalate {c separator : Char} {texts : List (List Char)}
    (h : ∀ text ∈ texts, text ≠ [])
    (hc : ([separator].intercalate texts).getLast? = some c) : ∃ text ∈ texts, c ∈ text := by
  induction texts with
  | nil => cases hc
  | cons text rest ih =>
    cases rest with
    | nil =>
      rw [List.intercalate_singleton] at hc
      exact ⟨text, List.mem_cons_self, List.mem_of_getLast? hc⟩
    | cons next rest =>
      have hrest := (List.forall_mem_cons.1 h).2
      have hne : [separator].intercalate (next :: rest) ≠ [] := by
        cases rest <;> simp [List.intercalate_cons_cons, hrest next List.mem_cons_self]
      rw [List.intercalate_cons_cons, List.getLast?_append_of_ne_nil _ hne] at hc
      obtain ⟨found, hmem, hfound⟩ := ih hrest hc
      exact ⟨found, List.mem_cons_of_mem _ hmem, hfound⟩

/-! ### Removing a pattern -/

theorem removeFrom_eq_drop (pattern : List Char) (skip : Nat) (text : List Char) :
    removeFrom pattern skip text = removeAll pattern (text.drop skip) := by
  induction text generalizing skip with
  | nil => cases skip <;> rfl
  | cons c rest ih =>
    cases skip with
    | zero => rfl
    | succ skip => rw [removeFrom, ih, List.drop_succ_cons]

/-- A pattern at the front is removed. -/
theorem removeAll_append {pattern : List Char} (hne : pattern ≠ []) (rest : List Char) :
    removeAll pattern (pattern ++ rest) = removeAll pattern rest := by
  obtain ⟨c, more, rfl⟩ := List.exists_cons_of_ne_nil hne
  have hfront : (c :: more).isPrefixOf (c :: (more ++ rest)) = true :=
    List.isPrefixOf_iff_prefix.2 (List.prefix_append _ _)
  rw [List.cons_append, removeAll, removeFrom, hfront, removeFrom_eq_drop]
  simp

/-- A character at which no occurrence begins is kept. -/
theorem removeAll_cons {pattern : List Char} {c : Char} {rest : List Char}
    (h : ¬ pattern <+: c :: rest) :
    removeAll pattern (c :: rest) = c :: removeAll pattern rest := by
  have hfront : pattern.isPrefixOf (c :: rest) = false := by
    rwa [← Bool.not_eq_true, List.isPrefixOf_iff_prefix]
  rw [removeAll, removeFrom, hfront, Bool.and_false]
  rfl

theorem removeAll_of_absent {pattern text : List Char} (h : ¬ pattern <:+: text) :
    removeAll pattern text = text := by
  induction text with
  | nil => rfl
  | cons c rest ih =>
    rw [List.infix_cons_iff, not_or] at h
    rw [removeAll_cons h.1, ih h.2]

/-- An occurrence is complete only with its last character. -/
theorem append_dropLast_isPrefix (piece pattern rest : List Char) :
    piece ++ pattern.dropLast <+: piece ++ (pattern ++ rest) :=
  (List.prefix_append_right_inj piece).2
    (pattern.dropLast_prefix.trans (List.prefix_append pattern rest))

/-- Text is kept up to the end of the first occurrence, and the occurrence is removed. -/
theorem removeAll_append_append {pattern piece : List Char}
    (h : ¬ pattern <:+: piece ++ pattern.dropLast) (rest : List Char) :
    removeAll pattern (piece ++ (pattern ++ rest)) = piece ++ removeAll pattern rest := by
  induction piece with
  | nil =>
    refine removeAll_append ?_ rest
    rintro rfl
    exact h List.nil_infix
  | cons c piece ih =>
    -- An occurrence that begins in the piece would end before the one behind it.
    have hfront : ¬ pattern <+: c :: (piece ++ (pattern ++ rest)) := by
      intro hstart
      have hlength : pattern.length ≤ (c :: piece ++ pattern.dropLast).length := by
        simp
        omega
      exact h (List.prefix_of_prefix_length_le hstart
        (append_dropLast_isPrefix (c :: piece) pattern rest) hlength).isInfix
    rw [List.cons_append, removeAll_cons hfront, ih fun hoccurs => h (List.infix_cons hoccurs),
      List.cons_append]

/-- The pieces of a text between the occurrences of a pattern that are found from left to right: up
to the end of an occurrence there is no earlier one. -/
inductive Pieces (pattern : List Char) : List Char → List (List Char) → Prop
  | last {text : List Char} (h : ¬ pattern <:+: text) : Pieces pattern text [text]
  | next {piece rest : List Char} {pieces : List (List Char)}
      (h : ¬ pattern <:+: piece ++ pattern.dropLast) (hrest : Pieces pattern rest pieces) :
      Pieces pattern (piece ++ (pattern ++ rest)) (piece :: pieces)

namespace Pieces

variable {pattern text : List Char} {pieces : List (List Char)}

/-- Put together with the pattern between them, the pieces are the text. -/
theorem intercalate_eq (h : Pieces pattern text pieces) : pattern.intercalate pieces = text := by
  induction h with
  | last h => exact List.intercalate_singleton
  | @next piece rest pieces h hrest ih =>
    have hne : pieces ≠ [] := by cases hrest <;> simp
    rw [List.intercalate_cons_of_ne_nil hne, ih, List.append_assoc]

/-- No piece holds the pattern. -/
theorem absent (h : Pieces pattern text pieces) {piece : List Char} (hpiece : piece ∈ pieces) :
    ¬ pattern <:+: piece := by
  induction h with
  | last h =>
    obtain rfl := List.mem_singleton.1 hpiece
    exact h
  | next h _ ih =>
    rcases List.mem_cons.1 hpiece with rfl | hpiece
    · exact fun hoccurs => h (List.infix_append_of_infix_left hoccurs)
    · exact ih hpiece

/-- **What is left of a text are its pieces**, one behind the other. -/
theorem removeAll_eq (h : Pieces pattern text pieces) :
    removeAll pattern text = pieces.flatten := by
  induction h with
  | last h => simp [removeAll_of_absent h]
  | next h _ ih => rw [removeAll_append_append h, ih, List.flatten_cons]

end Pieces

/-- A pattern that occurs in a text has a first occurrence. -/
theorem exists_first_occurrence {pattern text : List Char} (hne : pattern ≠ [])
    (h : pattern <:+: text) :
    ∃ piece rest, text = piece ++ (pattern ++ rest) ∧
      ¬ pattern <:+: piece ++ pattern.dropLast := by
  induction text with
  | nil => exact absurd (List.infix_nil.1 h) hne
  | cons c tail ih =>
    by_cases hfront : pattern <+: c :: tail
    · obtain ⟨rest, hrest⟩ := hfront
      refine ⟨[], rest, hrest.symm, ?_⟩
      intro hoccurs
      have hlength := hoccurs.length_le
      have hpos := List.length_pos_iff.2 hne
      simp at hlength
      omega
    · obtain ⟨piece, rest, rfl, hpiece⟩ := ih ((List.infix_cons_iff.1 h).resolve_left hfront)
      refine ⟨c :: piece, rest, rfl, ?_⟩
      intro hoccurs
      rcases List.infix_cons_iff.1 hoccurs with hstart | hoccurs
      · exact hfront (hstart.trans (append_dropLast_isPrefix (c :: piece) pattern rest))
      · exact hpiece hoccurs

/-- Every text has pieces. -/
theorem exists_pieces {pattern : List Char} (hne : pattern ≠ []) (text : List Char) :
    ∃ pieces, Pieces pattern text pieces := by
  by_cases h : pattern <:+: text
  · obtain ⟨piece, rest, htext, hpiece⟩ := exists_first_occurrence hne h
    obtain ⟨pieces, hrest⟩ := exists_pieces hne rest
    exact ⟨piece :: pieces, htext ▸ .next hpiece hrest⟩
  · exact ⟨[text], .last h⟩
termination_by text.length
decreasing_by
  have hpos := List.length_pos_iff.2 hne
  simp [htext]
  omega

/-- What is left of a text without the occurrences of a pattern. The empty pattern is not looked
for. -/
inductive Cleared (pattern text : List Char) : List Char → Prop
  | empty (h : pattern = []) : Cleared pattern text text
  | pieces {pieces : List (List Char)} (h : Pieces pattern text pieces) :
      Cleared pattern text pieces.flatten

theorem removeAll_nil (text : List Char) : removeAll [] text = text := by
  induction text with
  | nil => rfl
  | cons c rest ih => exact congrArg (c :: ·) ih

/-- There is one such rest, and `removeAll` finds it. -/
theorem cleared_iff (pattern text rest : List Char) :
    Cleared pattern text rest ↔ rest = removeAll pattern text := by
  constructor
  · intro h
    cases h with
    | empty hempty => rw [hempty, removeAll_nil]
    | pieces hpieces => exact hpieces.removeAll_eq.symm
  · rintro rfl
    by_cases hne : pattern = []
    · subst hne
      rw [removeAll_nil]
      exact .empty rfl
    · obtain ⟨pieces, hpieces⟩ := exists_pieces hne text
      rw [hpieces.removeAll_eq]
      exact .pieces hpieces

end SpaceMigration.Text
