import SpaceMigration.Proofs.ChecklistText

/-!
# Task lines and what becomes of them

A line of a task list is meant to have a bullet, a box behind it, and a text. What stands between
bullet and box is the gap: white space that the author wrote, or that is left where the marker stood.
A bullet is taken off together with one space behind it, and a box is looked for at the very
beginning of what is left. So the box is read behind a gap of one space, and behind no other: after a
wider gap, or one of other white space, it stays in the text, and the task is open whatever the box
shows.

The ends of the line are trimmed before that. A bullet at the end of its line has lost the space
behind it by then, is no longer taken off, and becomes a word.

## Main definitions

* `Bullet` — a bullet with the white space around it
* `EmptyEntry` — lines that hold nothing but a bullet and a box

## Main results

* `Bullet.itemOfLine?_eq_some_iff` — a task keeps its state behind a gap of one space only
* `EmptyEntry.itemOfLine?_eq_none_iff` — the empty entries that have no item
* `Converter.taskList_keeps_state_iff`, `Converter.taskList_drops_empty_entry_iff` — what the
  checklist makes of them
-/

namespace SpaceMigration.Checklist

open SpaceMigration.Text

/-! ### Reading a line to its item -/

/-- The item of a line is the words that are read from it. -/
theorem Reads.itemOfLine?_eq {marker line rest : List Char} {done : Bool}
    (h : Reads marker line done rest) :
    itemOfLine? marker line = if words rest = [] then none else some ⟨done, words rest⟩ := by
  rw [reads_iff] at h
  simp [itemOfLine?, ← h]

/-- A bullet has a space behind it. -/
theorem unbulleted_of_head?_ne {c : Char} {rest : List Char} (h : rest.head? ≠ some ' ') :
    Unbulleted (c :: rest) (c :: rest) := by
  refine .plain ?_
  simp only [bullets, List.forall_mem_cons]
  refine ⟨?_, ?_, List.forall_mem_nil _⟩
  all_goals
    rintro ⟨more, hmore⟩
    obtain ⟨-, rfl⟩ := List.cons.inj hmore
    exact h rfl

theorem unboxed_of_head?_ne {line : List Char} (h : line.head? ≠ some '[') :
    Unboxed line false line := by
  refine .plain ?_
  rintro done ⟨rest, rfl⟩
  exact h rfl

/-! ### Boxes -/

/-- A box has no white space at its ends. -/
theorem not_isWhiteSpace_of_ends_box (done : Bool) {c : Char}
    (h : (box done).head? = some c ∨ (box done).getLast? = some c) : isWhiteSpace c = false := by
  obtain rfl | rfl : '[' = c ∨ ']' = c := by simpa [box] using h
  · decide
  · decide

theorem words_box_append_ne_nil (done : Bool) (text : List Char) :
    words (box done ++ text) ≠ [] := by
  rw [Ne, words_eq_nil_iff]
  simp [box, isBlank, isWhiteSpace]

/-- An open box adds a word to a text, since there is a space in it. -/
theorem length_words_lt_length_words_box (text : List Char) :
    (words text).length < (words (box false ++ text)).length := by
  have hbox : box false ++ text = ['['] ++ ' ' :: (']' :: text) := rfl
  have hbracket : words ['['] = [['[']] := by decide
  have hrest := length_words_le_length_words_cons ']' text
  rw [hbox, words_append_cons (by decide), hbracket, List.length_append, List.length_singleton]
  omega

/-! ### Reading behind a bullet -/

/-- A bullet, the white space before it and the gap behind it. -/
structure Bullet where
  indent : List Char
  mark : Char
  gap : List Char
  indent_blank : isBlank indent = true
  mark_eq : mark = '*' ∨ mark = '-'
  gap_blank : isBlank gap = true

namespace Bullet

variable {b : Bullet} {marker line text : List Char} {done : Bool}

/-- The line that goes on with the given text behind the bullet. -/
def before (b : Bullet) (rest : List Char) : List Char :=
  b.indent ++ b.mark :: (b.gap ++ rest)

theorem not_isWhiteSpace_mark (b : Bullet) : isWhiteSpace b.mark = false := by
  rcases b.mark_eq with h | h <;> rw [h] <;> decide

theorem words_mark (b : Bullet) : words [b.mark] = [[b.mark]] := by
  rw [words.eq_def]
  dsimp only
  rw [b.not_isWhiteSpace_mark]
  rfl

theorem mark_ne_bracket (b : Bullet) : b.mark ≠ '[' := by
  rcases b.mark_eq with h | h <;> rw [h] <;> decide

/-- A bullet is taken off with the space behind it. -/
theorem unbulleted_space (b : Bullet) (rest : List Char) :
    Unbulleted (b.mark :: ' ' :: rest) rest := by
  have hbullet : [b.mark, ' '] ∈ bullets := by
    rcases b.mark_eq with h | h <;> simp [bullets, h]
  exact .bulleted rest hbullet

/-- The white space at the ends of a line goes; what stands behind the bullet can lose white space
at its own end only. -/
theorem trimmed_before (b : Bullet) {core after : List Char} (hafter : isBlank after = true)
    (hne : core ≠ []) (hlast : ∀ c, core.getLast? = some c → isWhiteSpace c = false) :
    Trimmed (b.before (core ++ after)) (b.mark :: (b.gap ++ core)) := by
  refine ⟨⟨b.indent, after, b.indent_blank, hafter, by simp [before]⟩, ?_, ?_⟩
  · intro c hc
    obtain rfl := Option.some.inj hc
    exact b.not_isWhiteSpace_mark
  · intro c hc
    rw [← List.cons_append, List.getLast?_append_of_ne_nil _ hne] at hc
    exact hlast c hc

/-- The white space behind a box and its text goes. -/
theorem exists_trimmed_box (b : Bullet) (done : Bool) (text : List Char) :
    ∃ rest after, isBlank after = true ∧ text = rest ++ after ∧
      Trimmed (b.before (box done ++ text)) (b.mark :: (b.gap ++ (box done ++ rest))) := by
  have hsplit := List.rdropWhile_append_rtakeWhile (p := isWhiteSpace) (l := text)
  have hafter := isBlank_rtakeWhile text
  have hlast : ∀ c, (box done ++ text.rdropWhile isWhiteSpace).getLast? = some c →
      isWhiteSpace c = false := by
    intro c hc
    by_cases hnil : text.rdropWhile isWhiteSpace = []
    · rw [hnil, List.append_nil] at hc
      exact not_isWhiteSpace_of_ends_box done (.inr hc)
    · rw [List.getLast?_append_of_ne_nil _ hnil] at hc
      exact not_isWhiteSpace_of_getLast?_rdropWhile hc
  have htrimmed := b.trimmed_before hafter (by simp [box]) hlast
  rw [List.append_assoc, hsplit] at htrimmed
  exact ⟨_, _, hafter, hsplit.symm, htrimmed⟩

/-- **Behind a gap of one space** the box is read. -/
theorem reads_of_gap_eq (hgap : b.gap = [' '])
    (h : Cleared marker line (b.before (box done ++ text))) :
    ∃ rest, Reads marker line done rest ∧ words rest = words text := by
  obtain ⟨rest, after, hafter, rfl, htrimmed⟩ := b.exists_trimmed_box done text
  rw [hgap] at htrimmed
  exact ⟨rest, ⟨h, htrimmed, b.unbulleted_space _, .boxed done rest⟩,
    (words_append_of_isBlank hafter).symm⟩

/-- **Behind any other gap** the box is not read and stays in the text. A bullet without a space
behind it stays too. -/
theorem reads_of_gap_ne (hne : b.gap ≠ []) (hgap : b.gap ≠ [' '])
    (h : Cleared marker line (b.before (box done ++ text))) :
    ∃ front rest, Reads marker line false rest ∧
      words rest = front ++ words (box done ++ text) := by
  obtain ⟨rest, after, hafter, rfl, htrimmed⟩ := b.exists_trimmed_box done text
  have hblank := b.gap_blank
  obtain ⟨c, more, hcons⟩ := List.exists_cons_of_ne_nil hne
  rw [hcons, List.cons_append] at htrimmed
  obtain ⟨hc, hmore⟩ : isWhiteSpace c = true ∧ isBlank more = true := by
    simpa [hcons, isBlank] using hblank
  rw [← List.append_assoc (box done), words_append_of_isBlank hafter]
  by_cases hspace : c = ' '
  · -- One space goes with the bullet, and white space remains in front of the box.
    subst hspace
    have hhead : (more ++ (box done ++ rest)).head? ≠ some '[' := by
      cases more with
      | nil => exact absurd hcons hgap
      | cons d others =>
        intro hbracket
        obtain rfl : d = '[' := by simpa using hbracket
        simp [isBlank, isWhiteSpace] at hmore
    refine ⟨[], _, ⟨h, htrimmed, b.unbulleted_space _, unboxed_of_head?_ne hhead⟩, ?_⟩
    exact words_append_of_isBlank_left hmore
  · -- The bullet is not taken off, and the box is not at the beginning.
    have hhead : (c :: (more ++ (box done ++ rest))).head? ≠ some ' ' := by
      simpa using hspace
    refine ⟨[[b.mark]], _, ⟨h, htrimmed, unbulleted_of_head?_ne hhead,
      unboxed_of_head?_ne (by simpa using b.mark_ne_bracket)⟩, ?_⟩
    have hmark := words_append_cons hc [b.mark] (more ++ (box done ++ rest))
    rwa [words_append_of_isBlank_left hmore, b.words_mark] at hmark

/-- **A task keeps its state** and its words behind a gap of one space only. -/
theorem itemOfLine?_eq_some_iff (hne : b.gap ≠ []) (hwords : words text ≠ [])
    (h : Cleared marker line (b.before (box done ++ text))) :
    itemOfLine? marker line = some ⟨done, words text⟩ ↔ b.gap = [' '] := by
  constructor
  · intro hitem
    by_contra hgap
    obtain ⟨front, rest, hreads, hrest⟩ := reads_of_gap_ne hne hgap h
    rw [hreads.itemOfLine?_eq, hrest] at hitem
    obtain ⟨-, hitem⟩ := Option.ite_none_left_eq_some.1 hitem
    obtain ⟨rfl, hsame⟩ := Item.mk.inj (Option.some.inj hitem)
    -- The box would have to be open, and then its two halves are words of their own.
    have hlength := congrArg List.length hsame
    have hbox := length_words_lt_length_words_box text
    rw [List.length_append] at hlength
    omega
  · intro hgap
    obtain ⟨rest, hreads, hrest⟩ := reads_of_gap_eq hgap h
    rw [hreads.itemOfLine?_eq, hrest, if_neg hwords]

/-- A task without words is dropped behind a gap of one space only. -/
theorem itemOfLine?_eq_none_iff (hne : b.gap ≠ []) (hblank : isBlank text = true)
    (h : Cleared marker line (b.before (box done ++ text))) :
    itemOfLine? marker line = none ↔ b.gap = [' '] := by
  constructor
  · intro hitem
    by_contra hgap
    obtain ⟨front, rest, hreads, hrest⟩ := reads_of_gap_ne hne hgap h
    rw [hreads.itemOfLine?_eq, hrest] at hitem
    simp [words_box_append_ne_nil] at hitem
  · intro hgap
    obtain ⟨rest, hreads, hrest⟩ := reads_of_gap_eq hgap h
    rw [hreads.itemOfLine?_eq, hrest, if_pos ((words_eq_nil_iff text).2 hblank)]

/-- A bullet at the end of its line becomes a word. -/
theorem itemOfLine?_bare (h : Cleared marker line (b.before [])) :
    itemOfLine? marker line = some ⟨false, [[b.mark]]⟩ := by
  have htrimmed : Trimmed (b.before []) [b.mark] := by
    refine ⟨⟨b.indent, b.gap, b.indent_blank, b.gap_blank, by simp [before]⟩, ?_, ?_⟩
    all_goals
      intro c hc
      obtain rfl := Option.some.inj hc
      exact b.not_isWhiteSpace_mark
  have hreads : Reads marker line false [b.mark] :=
    ⟨h, htrimmed, unbulleted_of_head?_ne (by simp),
      unboxed_of_head?_ne (by simpa using b.mark_ne_bracket)⟩
  rw [hreads.itemOfLine?_eq, b.words_mark]
  rfl

end Bullet

/-! ### Empty entries -/

/-- A line without text: white space, and in it at most one bullet and one box behind it. A bullet
has white space behind it, or nothing. -/
inductive EmptyEntry where
  | unbulleted (indent : List Char) (state : Option Bool) (rest : List Char)
      (indent_blank : isBlank indent = true) (rest_blank : isBlank rest = true)
  | bare (b : Bullet)
  | boxed (b : Bullet) (done : Bool) (rest : List Char) (gap_ne_nil : b.gap ≠ [])
      (rest_blank : isBlank rest = true)

namespace EmptyEntry

/-- The line of an empty entry. -/
def line : EmptyEntry → List Char
  | unbulleted indent state rest _ _ => indent ++ (state.elim [] box ++ rest)
  | bare b => b.before []
  | boxed b done rest _ _ => b.before (box done ++ rest)

/-- The empty entries that are seen to be empty: those without a bullet, and those with a box behind
a gap of one space. -/
inductive Recognised : EmptyEntry → Prop
  | unbulleted {indent rest : List Char} {state : Option Bool} {hindent : isBlank indent = true}
      {hrest : isBlank rest = true} : Recognised (.unbulleted indent state rest hindent hrest)
  | boxed {b : Bullet} {done : Bool} {rest : List Char} {hne : b.gap ≠ []}
      {hrest : isBlank rest = true} (hgap : b.gap = [' ']) :
      Recognised (.boxed b done rest hne hrest)

variable {marker text : List Char}

/-- A box alone is read, and leaves nothing. -/
theorem exists_reads_unbulleted {indent rest : List Char} {state : Option Bool}
    (hindent : isBlank indent = true) (hrest : isBlank rest = true)
    (h : Cleared marker text (indent ++ (state.elim [] box ++ rest))) :
    ∃ done, Reads marker text done [] := by
  have hends : ∀ c, (state.elim [] box).head? = some c ∨ (state.elim [] box).getLast? = some c →
      isWhiteSpace c = false := by
    intro c hc
    cases state with
    | none => simp at hc
    | some done => exact not_isWhiteSpace_of_ends_box done hc
  have htrimmed : Trimmed (indent ++ (state.elim [] box ++ rest)) (state.elim [] box) :=
    ⟨⟨indent, rest, hindent, hrest, rfl⟩, fun c hc => hends c (.inl hc),
      fun c hc => hends c (.inr hc)⟩
  have hbare : Unbulleted (state.elim [] box) (state.elim [] box) := by
    rw [unbulleted_iff]
    cases state <;> rfl
  refine ⟨state.getD false, h, htrimmed, hbare, ?_⟩
  rw [unboxed_iff]
  rcases state with _ | _ | _ <;> rfl

/-- **An empty entry has no item** exactly if it is recognised. -/
theorem itemOfLine?_eq_none_iff (entry : EmptyEntry) (h : Cleared marker text entry.line) :
    itemOfLine? marker text = none ↔ entry.Recognised := by
  cases entry with
  | unbulleted indent state rest hindent hrest =>
    obtain ⟨done, hreads⟩ := exists_reads_unbulleted hindent hrest h
    exact iff_of_true hreads.itemOfLine?_eq .unbulleted
  | bare b =>
    rw [b.itemOfLine?_bare h]
    refine iff_of_false (Option.some_ne_none _) ?_
    rintro ⟨⟩
  | boxed b done rest hne hrest =>
    rw [b.itemOfLine?_eq_none_iff hne hrest h]
    constructor
    · exact .boxed
    · intro hrecognised
      cases hrecognised with
      | boxed hgap => exact hgap

end EmptyEntry

/-! ### The place of a line in the checklist -/

/-- The items of some lines, in order. -/
def itemsOfLines (marker : List Char) (found : List (List Char)) : List Item :=
  found.filterMap (itemOfLine? marker)

theorem proper_of_mem_itemsOfLines {marker : List Char} {found : List (List Char)} {item : Item}
    (h : item ∈ itemsOfLines marker found) : item.Proper := by
  obtain ⟨line, -, hitem⟩ := List.mem_filterMap.1 h
  exact proper_of_itemOfLine? hitem

theorem ofTaskList_eq_of_lines {marker body line : List Char} {above below : List (List Char)}
    (hlines : lines body = above ++ line :: below) :
    ofTaskList marker body = written (itemsOfLines marker above ++
      ((itemOfLine? marker line).toList ++ itemsOfLines marker below)) := by
  rw [ofTaskList_eq_written, items, hlines, List.filterMap_append, List.filterMap_cons]
  cases itemOfLine? marker line <;> rfl

/-- **The checklist shows the item of a line** in the place of the line, and that no other. -/
theorem ofTaskList_eq_iff {marker body line : List Char} {above below : List (List Char)}
    (hlines : lines body = above ++ line :: below) {item : Option Item}
    (hitem : ∀ i ∈ item, i.Proper) :
    ofTaskList marker body = written (itemsOfLines marker above ++
      (item.toList ++ itemsOfLines marker below)) ↔ itemOfLine? marker line = item := by
  have hproper (shown : Option Item) (hshown : ∀ i ∈ shown, i.Proper) :
      ∀ i ∈ itemsOfLines marker above ++ (shown.toList ++ itemsOfLines marker below),
        i.Proper := by
    intro i hi
    rw [List.mem_append, List.mem_append, Option.mem_toList] at hi
    rcases hi with hi | hi | hi
    · exact proper_of_mem_itemsOfLines hi
    · exact hshown i hi
    · exact proper_of_mem_itemsOfLines hi
  rw [ofTaskList_eq_of_lines hlines]
  constructor
  · intro h
    have hsame := written_inj (hproper _ fun i => proper_of_itemOfLine?) (hproper _ hitem) h
    have hshown := List.append_cancel_right (List.append_cancel_left hsame)
    simpa using congrArg List.head? hshown
  · intro h
    rw [h]

end SpaceMigration.Checklist

namespace SpaceMigration.Converter

open SpaceMigration.Text SpaceMigration.Checklist

theorem taskList_mapBody_eq_iff (marker : String) (o : Occurrence) (checklist : List Char) :
    (taskList marker).mapBody o = .ok (String.ofList checklist) ↔
      ofTaskList marker.toList o.body.toList = checklist := by
  rw [taskList, Except.ok.injEq, String.ofList_inj]

section Lines

variable {marker : String} {o : Occurrence} {above below : List (List Char)} {line : List Char}

/-- **A task keeps its state** exactly if one space stands between its bullet and its box when the
marker is gone. Then its line becomes the item of that state with the words of the text. -/
theorem taskList_keeps_state_iff (hlines : lines o.body.toList = above ++ line :: below)
    {b : Bullet} {done : Bool} {text : List Char}
    (hcleared : Cleared marker.toList line (b.before (box done ++ text)))
    (hgap : b.gap ≠ []) (hwords : words text ≠ []) :
    (taskList marker).mapBody o = .ok (String.ofList (written
      (itemsOfLines marker.toList above ++ ⟨done, words text⟩ ::
        itemsOfLines marker.toList below))) ↔ b.gap = [' '] := by
  have hproper : ∀ i ∈ some (Item.mk done (words text)), i.Proper := by
    rintro _ ⟨⟩
    exact proper_of_words hwords done
  rw [taskList_mapBody_eq_iff, ← b.itemOfLine?_eq_some_iff hgap hwords hcleared]
  exact ofTaskList_eq_iff hlines hproper

/-- A finished task between two other lines, with the marker behind the gap. -/
theorem taskList_keeps_state_behind_marker :
    let o : Occurrence := ⟨"tasklist", .empty,
      "Sprint\n * 123_test_123[x] ship   it\nreview", by decide⟩
    let b : Bullet := ⟨[' '], '*', [' '], by decide, .inl rfl, by decide⟩
    lines o.body.toList =
        ["Sprint".toList] ++ " * 123_test_123[x] ship   it".toList :: ["review".toList] ∧
      Cleared legacyMarker.toList " * 123_test_123[x] ship   it".toList
        (b.before (box true ++ " ship   it".toList)) ∧
      b.gap ≠ [] ∧ words " ship   it".toList ≠ [] ∧
      (taskList legacyMarker).mapBody o = .ok "- [ ] Sprint\n- [x] ship it\n- [ ] review" := by
  intro o b
  have hlines : lines o.body.toList =
      ["Sprint".toList] ++ " * 123_test_123[x] ship   it".toList :: ["review".toList] := by
    decide +kernel
  have hcleared : Cleared legacyMarker.toList " * 123_test_123[x] ship   it".toList
      (b.before (box true ++ " ship   it".toList)) :=
    (cleared_iff ..).2 (by decide +kernel)
  have hgap : b.gap ≠ [] := by decide
  have hwords : words " ship   it".toList ≠ [] := by decide +kernel
  have hwritten : String.ofList (written (itemsOfLines legacyMarker.toList ["Sprint".toList] ++
      ⟨true, words " ship   it".toList⟩ ::
        itemsOfLines legacyMarker.toList ["review".toList])) =
      "- [ ] Sprint\n- [x] ship it\n- [ ] review" := by
    decide +kernel
  refine ⟨hlines, hcleared, hgap, hwords, ?_⟩
  rw [← hwritten]
  exact (taskList_keeps_state_iff hlines hcleared hgap hwords).2 rfl

/-- **A finished task can become an open one**: where the marker stands between bullet and box, two
spaces remain, and the box is not read. -/
theorem taskList_reopens_finished_task :
    let o : Occurrence := ⟨"tasklist", .empty, "* 123_test_123 [x] ship it", by decide⟩
    let b : Bullet := ⟨[], '*', [' ', ' '], by decide, .inl rfl, by decide⟩
    lines o.body.toList = [o.body.toList] ∧
      Cleared legacyMarker.toList o.body.toList (b.before (box true ++ " ship it".toList)) ∧
      words " ship it".toList = ["ship".toList, "it".toList] ∧
      (taskList legacyMarker).mapBody o = .ok "- [ ] [x] ship it" := by
  intro o b
  have hwritten : String.ofList (ofTaskList legacyMarker.toList o.body.toList) =
      "- [ ] [x] ship it" := by
    decide +kernel
  exact ⟨by decide +kernel, (cleared_iff ..).2 (by decide +kernel), by decide +kernel,
    congrArg Except.ok hwritten⟩

/-- **An empty entry contributes no item** exactly if it has no bullet, or has its box behind a gap
of one space. -/
theorem taskList_drops_empty_entry_iff (hlines : lines o.body.toList = above ++ line :: below)
    (entry : EmptyEntry) (hcleared : Cleared marker.toList line entry.line) :
    (taskList marker).mapBody o = .ok (String.ofList (written
      (itemsOfLines marker.toList above ++ itemsOfLines marker.toList below))) ↔
      entry.Recognised := by
  have hproper : ∀ i ∈ (none : Option Item), i.Proper := by
    rintro _ ⟨⟩
  rw [taskList_mapBody_eq_iff, ← entry.itemOfLine?_eq_none_iff hcleared]
  exact ofTaskList_eq_iff hlines hproper

/-- An open box without a text, in front of a task. -/
theorem taskList_drops_open_box :
    let o : Occurrence := ⟨"tasklist", .empty, "- [ ]123_test_123 \n* [x] ship it", by decide⟩
    let b : Bullet := ⟨[], '-', [' '], by decide, .inr rfl, by decide⟩
    let entry : EmptyEntry := .boxed b false [' '] (by decide) (by decide)
    lines o.body.toList =
        [] ++ "- [ ]123_test_123 ".toList :: ["* [x] ship it".toList] ∧
      Cleared legacyMarker.toList "- [ ]123_test_123 ".toList entry.line ∧
      (taskList legacyMarker).mapBody o = .ok "- [x] ship it" := by
  intro o b entry
  have hlines : lines o.body.toList =
      [] ++ "- [ ]123_test_123 ".toList :: ["* [x] ship it".toList] := by
    decide +kernel
  have hcleared : Cleared legacyMarker.toList "- [ ]123_test_123 ".toList entry.line :=
    (cleared_iff ..).2 (by decide +kernel)
  have hwritten : String.ofList (written (itemsOfLines legacyMarker.toList [] ++
      itemsOfLines legacyMarker.toList ["* [x] ship it".toList])) = "- [x] ship it" := by
    decide +kernel
  refine ⟨hlines, hcleared, ?_⟩
  rw [← hwritten]
  exact (taskList_drops_empty_entry_iff hlines entry hcleared).2 (.boxed rfl)

/-- **A bare bullet becomes a task**: at the end of its line it has lost the space behind it. -/
theorem taskList_keeps_bare_bullet :
    let o : Occurrence := ⟨"tasklist", .empty, "* 123_test_123\n* [x] ship it", by decide⟩
    let entry : EmptyEntry := .bare ⟨[], '*', [' '], by decide, .inl rfl, by decide⟩
    lines o.body.toList = ["* 123_test_123".toList, "* [x] ship it".toList] ∧
      Cleared legacyMarker.toList "* 123_test_123".toList entry.line ∧
      (taskList legacyMarker).mapBody o = .ok "- [ ] *\n- [x] ship it" := by
  intro o entry
  have hwritten : String.ofList (ofTaskList legacyMarker.toList o.body.toList) =
      "- [ ] *\n- [x] ship it" := by
    decide +kernel
  exact ⟨by decide +kernel, (cleared_iff ..).2 (by decide +kernel), congrArg Except.ok hwritten⟩

end Lines

end SpaceMigration.Converter
