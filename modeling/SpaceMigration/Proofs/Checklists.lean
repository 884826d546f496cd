import Mathlib.Data.List.Forall2
import Mathlib.Data.List.ReduceOption
import SpaceMigration.Macro.Families
import SpaceMigration.Proofs.Words

/-!
# What a checklist says of its task list

Each line of a task list is read in steps: the marker is taken out, the ends are trimmed, one bullet
is taken off, then one box. Each of these steps has a relation of its own (`Cleared`, `Trimmed`,
`Unbulleted`, `Unboxed`), and `Reads` puts them together. What is left of the line has the words of
its item, if it has any (`ItemOf`).

The marker can come through. It is searched for in the line once, from left to right, and where one
occurrence stands inside another the removal puts together what was apart. That is the only way: a
marker without white space that does not look like a bullet or a box (`Inert`) is not touched by the
steps behind the removal.

## Main definitions

* `ItemOf` — the item of a line
* `Inert` — a marker that only its own removal changes

## Main results

* `Converter.taskList_items` — the checklist is the list of the items of the lines
* `Converter.legacyMarker_remains_iff` — when the marker of the legacy exporter comes through
-/

namespace SpaceMigration.Checklist

open SpaceMigration.Text

/-! ### Reading a line -/

/-- The bullets that a line may begin with. -/
def bullets : List (List Char) :=
  [['*', ' '], ['-', ' ']]

/-- The box of a task that is done, or open. -/
def box (done : Bool) : List Char :=
  ['[', if done then 'x' else ' ', ']']

/-- The line without its bullet. A second one stays. -/
inductive Unbulleted : List Char → List Char → Prop
  | bulleted {bullet : List Char} (rest : List Char) (h : bullet ∈ bullets) :
      Unbulleted (bullet ++ rest) rest
  | plain {line : List Char} (h : ∀ bullet ∈ bullets, ¬ bullet <+: line) : Unbulleted line line

/-- The state that a box shows, and the line without the box. A line without a box is open. -/
inductive Unboxed : List Char → Bool → List Char → Prop
  | boxed (done : Bool) (rest : List Char) : Unboxed (box done ++ rest) done rest
  | plain {line : List Char} (h : ∀ done, ¬ box done <+: line) : Unboxed line false line

theorem unbulleted_iff (line rest : List Char) :
    Unbulleted line rest ↔ rest = stripBullet line := by
  constructor
  · intro h
    cases h with
    | bulleted rest h =>
      simp only [bullets, List.mem_cons, List.not_mem_nil, or_false] at h
      rcases h with rfl | rfl <;> rfl
    | plain h =>
      simp only [bullets, List.forall_mem_cons] at h
      obtain ⟨hstar, hdash, -⟩ := h
      unfold stripBullet
      split
      · exact absurd (List.prefix_append ['*', ' '] _) hstar
      · exact absurd (List.prefix_append ['-', ' '] _) hdash
      · rfl
  · rintro rfl
    unfold stripBullet
    split
    · exact .bulleted _ (List.mem_cons_self : ['*', ' '] ∈ bullets)
    · exact .bulleted _ (List.mem_cons_of_mem _ List.mem_cons_self : ['-', ' '] ∈ bullets)
    · next hstar hdash =>
      refine .plain ?_
      simp only [bullets, List.forall_mem_cons]
      refine ⟨?_, ?_, List.forall_mem_nil _⟩
      · rintro ⟨rest, rfl⟩
        exact hstar rest rfl
      · rintro ⟨rest, rfl⟩
        exact hdash rest rfl

theorem unboxed_iff (line rest : List Char) (done : Bool) :
    Unboxed line done rest ↔ (done, rest) = readBox line := by
  constructor
  · intro h
    cases h with
    | boxed done rest => cases done <;> rfl
    | plain h =>
      unfold readBox
      split
      · exact absurd (List.prefix_append (box true) _) (h true)
      · exact absurd (List.prefix_append (box false) _) (h false)
      · rfl
  · intro h
    unfold readBox at h
    split at h
    · obtain ⟨rfl, rfl⟩ := Prod.mk.inj h
      exact .boxed true _
    · obtain ⟨rfl, rfl⟩ := Prod.mk.inj h
      exact .boxed false _
    · next hdone hopen =>
      obtain ⟨rfl, rfl⟩ := Prod.mk.inj h
      refine .plain ?_
      rintro (_ | _) ⟨rest, rfl⟩
      · exact hopen rest rfl
      · exact hdone rest rfl

/-- What a line says: whether its task is done, and the text that holds its words. -/
inductive Reads (marker line : List Char) (done : Bool) (text : List Char) : Prop
  | intro {cleared core bare : List Char} (hcleared : Cleared marker line cleared)
      (hcore : Trimmed cleared core) (hbare : Unbulleted core bare) (hbox : Unboxed bare done text)

theorem reads_iff (marker line text : List Char) (done : Bool) :
    Reads marker line done text ↔
      (done, text) = readBox (stripBullet (trim (removeAll marker line))) := by
  constructor
  · rintro ⟨hcleared, hcore, hbare, hbox⟩
    rw [cleared_iff] at hcleared
    rw [trimmed_iff] at hcore
    rw [unbulleted_iff] at hbare
    rw [unboxed_iff] at hbox
    rw [hbox, hbare, hcore, hcleared]
  · intro h
    exact ⟨(cleared_iff ..).2 rfl, (trimmed_iff ..).2 rfl, (unbulleted_iff ..).2 rfl,
      (unboxed_iff ..).2 h⟩

/-! ### Items -/

/-- The item of a line. It shows the state of the task, and holds the words of the line with single
spaces between them and no other white space. A line that is left with nothing but white space has
no item. -/
inductive ItemOf (marker line : List Char) : Option (List Char) → Prop
  | blank {done : Bool} {rest : List Char} (h : Reads marker line done rest)
      (hblank : ∀ c ∈ rest, isWhiteSpace c = true) : ItemOf marker line none
  | task {done : Bool} {rest text : List Char} (h : Reads marker line done rest)
      (hwords : text.splitOn ' ' = (rest.splitOnP isWhiteSpace).filter (!·.isEmpty))
      (hspaced : ∀ word ∈ text.splitOn ' ', word ≠ [] ∧ ∀ c ∈ word, isWhiteSpace c = false) :
      ItemOf marker line (some ('-' :: ' ' :: box done ++ ' ' :: text))

/-- Each line has an item, or none, and only that. -/
theorem itemOf_iff (marker line : List Char) (item : Option (List Char)) :
    ItemOf marker line item ↔ item = (itemOfLine? marker line).map Item.render := by
  unfold itemOfLine?
  constructor
  · intro h
    cases h with
    | @blank done rest h hblank =>
      rw [reads_iff] at h
      have hnone : words rest = [] := (words_eq_nil_iff rest).2 (List.all_eq_true.2 hblank)
      simp [← h, hnone]
    | @task done rest text h hwords hspaced =>
      rw [reads_iff] at h
      rw [← words_eq_filter_splitOnP] at hwords
      simp [← h, Item.render, box, ← hwords, List.intercalate_splitOn]
  · rintro rfl
    generalize hbox : readBox (stripBullet (trim (removeAll marker line))) = reading
    obtain ⟨done, rest⟩ := reading
    have hreads : Reads marker line done rest := (reads_iff ..).2 hbox.symm
    by_cases hnone : words rest = []
    · have hblank := (words_eq_nil_iff rest).1 hnone
      simp only [hnone, List.isEmpty_nil, if_true, Option.map_none]
      exact .blank hreads (List.all_eq_true.1 hblank)
    · simp only [List.isEmpty_iff, hnone, if_false, Option.map_some]
      refine .task hreads ?_ ?_
      · rw [splitOn_intercalate_words hnone, words_eq_filter_splitOnP]
      · intro word hword
        rw [splitOn_intercalate_words hnone] at hword
        exact ⟨ne_nil_of_mem_words hword, fun c => not_isWhiteSpace_of_mem_words hword⟩

/-- Lines have one list of items. -/
theorem forall₂_itemOf_iff (marker : List Char) (found : List (List Char))
    (items : List (Option (List Char))) :
    List.Forall₂ (ItemOf marker) found items ↔
      items = found.map fun line => (itemOfLine? marker line).map Item.render := by
  have hrelation : ItemOf marker =
      fun line item => (itemOfLine? marker line).map Item.render = item := by
    ext line item
    rw [itemOf_iff, eq_comm]
  rw [hrelation, @eq_comm _ items, ← List.forall₂_eq_eq_eq, List.forall₂_map_left_iff]

/-- A checklist joins the items that its lines have. -/
theorem ofTaskList_eq (marker body : List Char) :
    ofTaskList marker body = ['\n'].intercalate
      ((lines body).map fun line => (itemOfLine? marker line).map Item.render).reduceOption := by
  rw [ofTaskList, items, List.reduceOption, List.filterMap_map, List.map_filterMap]
  rfl

/-! ### What is left of the marker -/

/-- The characters that a line can lose or an item can get: white space, and those of bullets and
boxes. -/
def isLayout (c : Char) : Bool :=
  isWhiteSpace c || ['-', '*', '[', 'x', ']'].contains c

/-- A text that the layout of lines and items cannot cut or complete. -/
structure Inert (pattern : List Char) : Prop where
  ne_nil : pattern ≠ []
  no_layout : pattern.any isLayout = false

namespace Inert

variable {pattern : List Char}

theorem notMem (h : Inert pattern) {c : Char} (hc : isLayout c = true) : c ∉ pattern :=
  fun hmem => List.any_eq_false.1 h.no_layout c hmem hc

theorem not_isWhiteSpace (h : Inert pattern) : ∀ c ∈ pattern, isWhiteSpace c = false := by
  intro c hmem
  by_contra hc
  rw [Bool.not_eq_false] at hc
  exact h.notMem (by rw [isLayout, hc, Bool.true_or]) hmem

/-- Layout in front of a text can be left out. -/
theorem infix_append_iff (h : Inert pattern) {front : List Char}
    (hfront : front.all isLayout = true) (text : List Char) :
    pattern <:+: front ++ text ↔ pattern <:+: text := by
  induction front with
  | nil => rfl
  | cons c front ih =>
    rw [List.all_cons, Bool.and_eq_true] at hfront
    obtain ⟨hc, hfront⟩ := hfront
    rw [List.cons_append, infix_cons_iff_of_notMem (h.notMem hc) h.ne_nil, ih hfront]

theorem infix_trim_iff (h : Inert pattern) (text : List Char) :
    pattern <:+: trim text ↔ pattern <:+: text := by
  rw [infix_iff_exists_mem_words h.ne_nil h.not_isWhiteSpace, words_trim,
    ← infix_iff_exists_mem_words h.ne_nil h.not_isWhiteSpace]

theorem infix_unbulleted_iff (h : Inert pattern) {line rest : List Char}
    (hrest : Unbulleted line rest) : pattern <:+: rest ↔ pattern <:+: line := by
  cases hrest with
  | bulleted rest hbullet =>
    have hlayout : ∀ bullet ∈ bullets, bullet.all isLayout = true := by decide
    rw [h.infix_append_iff (hlayout _ hbullet)]
  | plain => rfl

theorem infix_unboxed_iff (h : Inert pattern) {line rest : List Char} {done : Bool}
    (hrest : Unboxed line done rest) : pattern <:+: rest ↔ pattern <:+: line := by
  cases hrest with
  | boxed done rest =>
    have hlayout : ∀ done, (box done).all isLayout = true := by decide
    rw [h.infix_append_iff (hlayout done)]
  | plain => rfl

/-- Behind the removal of the marker, reading a line cuts and completes nothing. -/
theorem infix_reads_iff (h : Inert pattern) {marker line text : List Char} {done : Bool}
    (hreads : Reads marker line done text) :
    pattern <:+: text ↔ pattern <:+: removeAll marker line := by
  obtain ⟨hcleared, hcore, hbare, hbox⟩ := hreads
  rw [h.infix_unboxed_iff hbox, h.infix_unbulleted_iff hbare, (trimmed_iff ..).1 hcore,
    h.infix_trim_iff, (cleared_iff ..).1 hcleared]

theorem infix_render_iff (h : Inert pattern) (item : Item) :
    pattern <:+: item.render ↔ ∃ word ∈ item.words, pattern <:+: word := by
  have hlayout : ∀ done, ('-' :: ' ' :: box done ++ [' ']).all isLayout = true := by decide
  have hrender : item.render =
      ('-' :: ' ' :: box item.done ++ [' ']) ++ [' '].intercalate item.words := rfl
  rw [hrender, h.infix_append_iff (hlayout item.done),
    infix_intercalate_iff (h.notMem (by decide)) h.ne_nil]

/-- What a line without its marker holds is in its item. -/
theorem exists_item_iff (h : Inert pattern) (marker line : List Char) :
    (∃ item, itemOfLine? marker line = some item ∧ pattern <:+: item.render) ↔
      pattern <:+: removeAll marker line := by
  generalize hbox : readBox (stripBullet (trim (removeAll marker line))) = reading
  obtain ⟨done, rest⟩ := reading
  rw [← h.infix_reads_iff ((reads_iff ..).2 hbox.symm),
    infix_iff_exists_mem_words h.ne_nil h.not_isWhiteSpace]
  simp only [h.infix_render_iff, itemOfLine?, hbox]
  -- A line without an item has no words that could hold the pattern.
  by_cases hnone : words rest = []
  · simp [hnone]
  · simp [hnone]

end Inert

/-- The checklist holds what a line holds without its marker, and nothing across two lines. -/
theorem infix_ofTaskList_iff {pattern : List Char} (h : Inert pattern) (marker body : List Char) :
    pattern <:+: ofTaskList marker body ↔
      ∃ line ∈ lines body, pattern <:+: removeAll marker line := by
  rw [ofTaskList, infix_intercalate_iff (h.notMem (by decide)) h.ne_nil]
  simp only [List.mem_map, items, List.mem_filterMap, ← h.exists_item_iff]
  constructor
  · rintro ⟨_, ⟨item, ⟨line, hline, hitem⟩, rfl⟩, hoccurs⟩
    exact ⟨line, hline, item, hitem, hoccurs⟩
  · rintro ⟨line, hline, item, hitem, hoccurs⟩
    exact ⟨_, ⟨item, ⟨line, hline, hitem⟩, rfl⟩, hoccurs⟩

theorem inert_legacyMarker : Inert legacyMarker.toList :=
  ⟨by decide, by decide⟩

end SpaceMigration.Checklist

namespace SpaceMigration.Converter

/-- **A checklist is the list of the items of its lines**, in the order of the lines and at most one
for each. The lines and their items are determined by the body. -/
theorem taskList_items (marker : String) (o : Occurrence) :
    ∃ lines items, (∀ found, Text.Lines o.body.toList found ↔ found = lines) ∧
      (∀ found, List.Forall₂ (Checklist.ItemOf marker.toList) lines found ↔ found = items) ∧
      (taskList marker).mapBody o =
        .ok (String.ofList (['\n'].intercalate items.reduceOption)) := by
  refine ⟨_, _, Text.lines_iff o.body.toList, Checklist.forall₂_itemOf_iff marker.toList _, ?_⟩
  rw [← Checklist.ofTaskList_eq]
  rfl

/-- **The marker of the legacy exporter remains in a checklist** exactly if there is a line whose
pieces between the markers make up a marker again. None of them holds it alone. -/
theorem legacyMarker_remains_iff (o : Occurrence) :
    ∃ checklist, (taskList legacyMarker).mapBody o = .ok checklist ∧
      (legacyMarker.toList <:+: checklist.toList ↔
        ∃ line ∈ Text.lines o.body.toList, ∃ pieces,
          Text.Pieces legacyMarker.toList line pieces ∧
          legacyMarker.toList.intercalate pieces = line ∧
          (∀ piece ∈ pieces, ¬ legacyMarker.toList <:+: piece) ∧
          legacyMarker.toList <:+: pieces.flatten) := by
  have hinert := Checklist.inert_legacyMarker
  refine ⟨_, rfl, ?_⟩
  rw [String.toList_ofList, Checklist.infix_ofTaskList_iff hinert]
  constructor
  · rintro ⟨line, hline, hoccurs⟩
    obtain ⟨pieces, hpieces⟩ := Text.exists_pieces hinert.ne_nil line
    rw [hpieces.removeAll_eq] at hoccurs
    exact ⟨line, hline, pieces, hpieces, hpieces.intercalate_eq, fun _ => hpieces.absent, hoccurs⟩
  · rintro ⟨line, hline, pieces, hpieces, -, -, hoccurs⟩
    rw [← hpieces.removeAll_eq] at hoccurs
    exact ⟨line, hline, hoccurs⟩

/-- **A marker can come through**: with another marker in its middle, the removal takes the inner
one out and puts the outer one together. -/
theorem legacyMarker_remains_nested :
    let o : Occurrence := ⟨"tasklist", .empty, "* [x] ship 123_123_test_123test_123 it", by decide⟩
    (taskList legacyMarker).accepts o = true ∧
      (taskList legacyMarker).mapBody o = .ok "- [x] ship 123_test_123 it" ∧
      legacyMarker.toList <:+: "- [x] ship 123_test_123 it".toList := by
  refine ⟨by decide +kernel, by rfl, ?_⟩
  rw [← Text.occursIn_iff]
  decide +kernel

end SpaceMigration.Converter
