import SpaceMigration.Proofs.Checklists

/-!
# Checklists are read as they are written

A checklist is itself a list of tasks: one a line, each with a bullet and a box. Read as a task list
it has the items that it was made of. The words of an item hold no white space, so its line is one
line, and one bullet and one box are taken off it; where the first word looks like a bullet or a box
too, it stays.

So converting a checklist again changes nothing. The marker alone can stand in the way: it is taken
out of the lines of a checklist as it is out of any others.

## Main definitions

* `Item.Proper` — items that have words, each of them without white space
* `written` — the checklist of a list of items

## Main results

* `lines_written` — the lines of a checklist are the lines of its items
* `items_written`, `written_inj` — a checklist is read as it is written
* `Converter.taskList_idempotent` — a checklist without the marker is converted into itself
-/

namespace SpaceMigration.Checklist

open SpaceMigration.Text

/-! ### Proper items -/

/-- An item that has words, and no white space in them. -/
structure Item.Proper (item : Item) : Prop where
  words_ne_nil : item.words ≠ []
  words_plain : ∀ word ∈ item.words, word ≠ [] ∧ ∀ c ∈ word, isWhiteSpace c = false

theorem proper_of_words {text : List Char} (h : words text ≠ []) (done : Bool) :
    Item.Proper ⟨done, words text⟩ :=
  ⟨h, fun _ hword => ⟨ne_nil_of_mem_words hword, fun _ => not_isWhiteSpace_of_mem_words hword⟩⟩

/-- The items of lines are proper. -/
theorem proper_of_itemOfLine? {marker line : List Char} {item : Item}
    (h : itemOfLine? marker line = some item) : item.Proper := by
  simp only [itemOfLine?, List.isEmpty_iff, Option.ite_none_left_eq_some, Option.some.injEq] at h
  obtain ⟨hne, rfl⟩ := h
  exact proper_of_words hne _

namespace Item

variable {item : Item}

/-- The layout of an item stands in front of its words. -/
theorem render_eq (item : Item) :
    item.render = ('-' :: ' ' :: box item.done ++ [' ']) ++ [' '].intercalate item.words :=
  rfl

theorem render_ne_nil (item : Item) : item.render ≠ [] :=
  List.cons_ne_nil _ _

theorem readBox_stripBullet_render (item : Item) :
    readBox (stripBullet item.render) = (item.done, ' ' :: [' '].intercalate item.words) := by
  obtain ⟨done, found⟩ := item
  cases done <;> rfl

namespace Proper

/-- A proper item ends inside a word. -/
theorem not_isWhiteSpace_of_getLast? (h : item.Proper) {c : Char}
    (hc : item.render.getLast? = some c) : isWhiteSpace c = false := by
  have hjoined : [' '].intercalate item.words ≠ [] := by
    intro hnil
    have hwords := words_intercalate h.words_plain
    rw [hnil] at hwords
    exact h.words_ne_nil hwords.symm
  rw [render_eq, List.getLast?_append_of_ne_nil _ hjoined] at hc
  obtain ⟨word, hword, hmem⟩ :=
    exists_mem_of_getLast?_intercalate (fun word hword => (h.words_plain word hword).1) hc
  exact (h.words_plain word hword).2 c hmem

/-- A proper item holds no other white space than the space. -/
theorem eq_space_of_mem_render (h : item.Proper) {c : Char} (hc : c ∈ item.render)
    (hspace : isWhiteSpace c = true) : c = ' ' := by
  by_contra hne
  have hlayout : ∀ done, ('-' :: ' ' :: box done ++ [' ']).all
      (fun d => d == ' ' || !isWhiteSpace d) = true := by
    decide
  rw [render_eq, List.mem_append, mem_intercalate_iff hne] at hc
  obtain hc | ⟨word, hword, hc⟩ := hc
  · have hplain := List.all_eq_true.1 (hlayout item.done) c hc
    simp [hne, hspace] at hplain
  · simp [(h.words_plain word hword).2 c hc] at hspace

/-- A proper item is one line. -/
theorem feed_notMem_render (h : item.Proper) : '\n' ∉ item.render := by
  intro hfeed
  exact absurd (h.eq_space_of_mem_render hfeed (by decide)) (by decide)

theorem getLast?_render_ne_return (h : item.Proper) : item.render.getLast? ≠ some '\r' := by
  intro hreturn
  exact absurd (h.not_isWhiteSpace_of_getLast? hreturn) (by decide)

theorem trim_render (h : item.Proper) : trim item.render = item.render := by
  have hhead : ∀ c, item.render.head? = some c → isWhiteSpace c = false := by
    intro c hc
    obtain rfl : '-' = c := Option.some.inj hc
    decide
  refine ((trimmed_iff ..).1 ⟨⟨[], [], rfl, rfl, ?_⟩, hhead, ?_⟩).symm
  · simp
  · exact fun c => h.not_isWhiteSpace_of_getLast?

/-- **An item is read from its line**, if the removal of the marker leaves the line as it is. -/
theorem itemOfLine?_render (h : item.Proper) {marker : List Char}
    (hkept : removeAll marker item.render = item.render) :
    itemOfLine? marker item.render = some item := by
  have hwords : Text.words (' ' :: [' '].intercalate item.words) = item.words := by
    rw [← List.nil_append (' ' :: _), words_append_cons (by decide),
      words_intercalate h.words_plain]
    rfl
  simp [itemOfLine?, hkept, h.trim_render, readBox_stripBullet_render, hwords, h.words_ne_nil]

end Proper

end Item

/-! ### Checklists of proper items -/

/-- The checklist of a list of items. -/
def written (items : List Item) : List Char :=
  ['\n'].intercalate (items.map Item.render)

theorem ofTaskList_eq_written (marker body : List Char) :
    ofTaskList marker body = written (items marker body) :=
  rfl

theorem proper_of_mem_items {marker body : List Char} {item : Item}
    (h : item ∈ items marker body) : item.Proper := by
  obtain ⟨line, -, hitem⟩ := List.mem_filterMap.1 h
  exact proper_of_itemOfLine? hitem

section Written

variable {found : List Item} (hproper : ∀ item ∈ found, item.Proper)

include hproper

/-- **The lines of a checklist** are the lines of its items. -/
theorem lines_written : lines (written found) = found.map Item.render := by
  refine lines_intercalate ?_
  intro line hline
  obtain ⟨item, hitem, rfl⟩ := List.mem_map.1 hline
  have h := hproper item hitem
  exact ⟨item.render_ne_nil, h.feed_notMem_render, h.getLast?_render_ne_return⟩

/-- **A checklist is read as it is written**, if the removal of the marker leaves its lines as they
are. -/
theorem items_written {marker : List Char}
    (hkept : ∀ item ∈ found, removeAll marker item.render = item.render) :
    items marker (written found) = found := by
  have hread : ∀ item ∈ found, (itemOfLine? marker ∘ Item.render) item = some item :=
    fun item hitem => (hproper item hitem).itemOfLine?_render (hkept item hitem)
  rw [items, lines_written hproper, List.filterMap_map, List.filterMap_congr hread,
    List.filterMap_some]

/-- A checklist holds its items. -/
theorem render_infix_written {item : Item} (h : item ∈ found) : item.render <:+: written found := by
  rw [written, infix_intercalate_iff (hproper item h).feed_notMem_render item.render_ne_nil]
  exact ⟨item.render, List.mem_map_of_mem h, List.infix_rfl⟩

/-- A marker that a checklist does not hold changes nothing in it. -/
theorem items_written_of_absent {marker : List Char} (habsent : ¬ marker <:+: written found) :
    items marker (written found) = found := by
  refine items_written hproper ?_
  intro item hitem
  refine removeAll_of_absent ?_
  intro hoccurs
  exact habsent (hoccurs.trans (render_infix_written hproper hitem))

end Written

/-- A checklist tells its items. -/
theorem written_inj {found others : List Item} (hfound : ∀ item ∈ found, item.Proper)
    (hothers : ∀ item ∈ others, item.Proper) (h : written found = written others) :
    found = others := by
  -- The empty marker is not looked for, so that every line is kept.
  have hread := items_written hfound fun item _ => removeAll_nil item.render
  rwa [h, items_written hothers fun item _ => removeAll_nil item.render, eq_comm] at hread

end SpaceMigration.Checklist

namespace SpaceMigration.Converter

/-- **Converting a checklist again changes nothing** unless it holds the marker. The empty marker is
held by every text. -/
theorem taskList_idempotent (marker : String) (o : Occurrence) :
    ∃ checklist, (taskList marker).mapBody o = .ok checklist ∧
      (¬ marker.toList <:+: checklist.toList → ∀ again : Occurrence, again.body = checklist →
        (taskList marker).mapBody again = .ok checklist) := by
  refine ⟨_, rfl, ?_⟩
  intro habsent again hbody
  have hproper : ∀ item ∈ Checklist.items marker.toList o.body.toList, item.Proper :=
    fun item => Checklist.proper_of_mem_items
  rw [String.toList_ofList, Checklist.ofTaskList_eq_written] at habsent
  have hitems := Checklist.items_written_of_absent hproper habsent
  simp only [taskList, hbody, String.toList_ofList]
  rw [Checklist.ofTaskList_eq_written, Checklist.ofTaskList_eq_written, hitems]

/-- Two tasks whose words begin like another bullet and another box. -/
theorem taskList_idempotent_of_two_tasks :
    let o : Occurrence := ⟨"tasklist", .empty,
      "123_test_123\n* [x] * [ ] write   docs\n[ ] [x] ship it", by decide⟩
    let again : Occurrence := ⟨"tasklist", .empty,
      "- [x] * [ ] write docs\n- [ ] [x] ship it", by decide⟩
    (taskList legacyMarker).mapBody o = .ok again.body ∧
      ¬ legacyMarker.toList <:+: again.body.toList ∧
      (taskList legacyMarker).mapBody again = .ok again.body := by
  intro o again
  have hwritten : String.ofList (Checklist.ofTaskList legacyMarker.toList o.body.toList) =
      again.body := by
    decide +kernel
  have hfirst : (taskList legacyMarker).mapBody o = .ok again.body := congrArg Except.ok hwritten
  have habsent : ¬ legacyMarker.toList <:+: again.body.toList := by
    rw [← Text.occursIn_iff]
    decide +kernel
  obtain ⟨checklist, hchecklist, hagain⟩ := taskList_idempotent legacyMarker o
  obtain rfl : again.body = checklist := Except.ok.inj (hfirst.symm.trans hchecklist)
  exact ⟨hfirst, habsent, hagain habsent again rfl⟩

end SpaceMigration.Converter
