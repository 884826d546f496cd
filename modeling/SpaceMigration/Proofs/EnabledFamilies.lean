import SpaceMigration.Macro.Families
import SpaceMigration.Proofs.Patterns

/-!
# What the enabled families convert

The table of families says which macros an extension converts, and to what. A registry of extensions
is the part of the table that its extensions stand for: a macro of it is converted to the target of
its row, and every other macro is left as it is. Each macro has one row and each row one converter,
so it does not matter in which order the extensions are named, how often, or what other names stand
between them.

An enabled family converts every macro it has, except for task lists without the marker. The
parameters of what it makes have the names that the targets know. The body is kept; that of a task
list alone is rewritten.

## Main definitions

* `familyTable` — the macros of the families
* `Enabled` — whether a macro is of an enabled family

## Main results

* `Registry.get?_ofExtensions_iff` — the converters of a registry of extensions
* `Converter.ofMacro_replaces` — what the converters make of the macros of the table
* `Registry.ofExtensions_converts_families` — what a registry of extensions does
-/

namespace SpaceMigration

/-! ### The table -/

/-- A macro of the source, the extension that its family needs, and the macro it becomes. -/
structure FamilyRow where
  extension : String
  source : String
  target : String

/-- The macros of the families. -/
def familyTable : List FamilyRow :=
  [⟨"macro-tasklist", "tasklist", "checklist"⟩,
   ⟨"macro-code", "code", "code"⟩,
   ⟨"macro-code", "noformat", "code"⟩,
   ⟨"macro-panel", "info", "info"⟩,
   ⟨"macro-panel", "note", "warning"⟩,
   ⟨"macro-panel", "tip", "success"⟩,
   ⟨"macro-panel", "warning", "error"⟩,
   ⟨"macro-toc", "toc", "toc"⟩]

/-- The names that parameters have in the target. -/
def targetNames : List String :=
  ["title", "language", "layout", "start", "depth"]

/-- The macro is of a family that one of the extensions enables. -/
def Enabled (ids : List String) (id : String) : Prop :=
  ∃ row ∈ familyTable, row.source = id ∧ row.extension ∈ ids

/-- The converter of a macro of the table. -/
def Converter.ofMacro (marker id : String) : Converter :=
  if id = "tasklist" then .taskList marker
  else if id = "code" ∨ id = "noformat" then .code
  else if id = "toc" then .rename tocRenaming
  else .panel

/-! ### The converters of a registry -/

/-- An extension stands for its rows of the table. -/
theorem Extension.converters_eq_rows (marker extension : String) :
    ((Extension.ofId? extension).map (·.converters marker)).getD [] =
      (familyTable.filter (·.extension = extension)).map fun row =>
        (row.source, Converter.ofMacro marker row.source) := by
  by_cases hknown :
      extension ∈ ["macro-tasklist", "macro-code", "macro-panel", "macro-toc"]
  · simp only [List.mem_cons, List.not_mem_nil, or_false] at hknown
    rcases hknown with rfl | rfl | rfl | rfl <;> rfl
  · simp only [List.mem_cons, List.not_mem_nil, or_false, not_or] at hknown
    simp [ofId?, familyTable, hknown, eq_comm]

namespace Registry

variable {ids : List String} {marker id : String}

/-- **The converters of a registry of extensions** are those of the macros that are enabled. -/
theorem get?_ofExtensions_iff (c : Converter) :
    (ofExtensions ids marker).get? id = some c ↔
      Enabled ids id ∧ c = Converter.ofMacro marker id := by
  have hmem (key : String) (c : Converter) :
      (key, c) ∈ ids.flatMap (fun extension =>
          ((Extension.ofId? extension).map (·.converters marker)).getD []) ↔
        Enabled ids key ∧ c = Converter.ofMacro marker key := by
    simp only [Extension.converters_eq_rows, List.mem_flatMap, List.mem_map, List.mem_filter,
      decide_eq_true_eq, Prod.mk.injEq, Enabled]
    constructor
    · rintro ⟨_, hextension, row, ⟨hrow, rfl⟩, rfl, rfl⟩
      exact ⟨⟨row, hrow, rfl, hextension⟩, rfl⟩
    · rintro ⟨⟨row, hrow, rfl, hextension⟩, rfl⟩
      exact ⟨row.extension, hextension, row, ⟨hrow, rfl⟩, rfl, rfl⟩
  rw [ofExtensions, StringMap.get?_ofList_eq_some_iff ?_, hmem]
  intro key v w hv hw
  rw [((hmem key v).1 hv).2, ((hmem key w).1 hw).2]

/-- The macros of a registry of extensions are those that are enabled. -/
theorem mem_keys_ofExtensions_iff : id ∈ (ofExtensions ids marker).keys ↔ Enabled ids id := by
  rw [StringMap.mem_keys_iff]
  simp only [get?_ofExtensions_iff, exists_and_left, exists_eq, and_true]

/-- **The order of the extensions** does not count, nor how often one is named, nor names that the
table does not know. -/
theorem ofExtensions_eq_of_mem_iff {others : List String}
    (h : ∀ row ∈ familyTable, row.extension ∈ others ↔ row.extension ∈ ids) :
    ofExtensions others marker = ofExtensions ids marker := by
  have henabled (id : String) : Enabled others id ↔ Enabled ids id := by
    refine exists_congr fun row => and_congr_right fun hrow => ?_
    rw [h row hrow]
  refine StringMap.ext_get? fun id => Option.ext fun c => ?_
  rw [get?_ofExtensions_iff, get?_ofExtensions_iff, henabled]

end Registry

/-! ### Replacements -/

/-- What a row of the table promises of the replacement. -/
structure FamilyRow.Replaces (row : FamilyRow) (o : Occurrence) (r : Replacement) : Prop where
  targetId_eq : r.targetId = row.target
  keys_subset : r.parameters.keys ⊆ targetNames
  body_eq : row.source ≠ "tasklist" → r.body = o.body

theorem titleOnly_keys_subset (o : Occurrence) : (titleOnly o).keys ⊆ ["title"] := by
  unfold titleOnly
  split
  · exact List.nil_subset _
  · exact StringMap.keys_ofList_subset _

theorem Converter.codeParameters_keys_subset (o : Occurrence) :
    (codeParameters o).keys ⊆ ["language", "title", "layout"] := by
  refine List.Subset.trans (StringMap.keys_ofList_subset _) ?_
  intro name hname
  simp only [List.map_append, List.mem_append, List.mem_map, Option.mem_toList,
    Option.map_eq_some_iff] at hname
  rcases hname with (⟨_, ⟨_, -, rfl⟩, rfl⟩ | ⟨_, ⟨_, -, rfl⟩, rfl⟩) | ⟨entry, hlayout, rfl⟩
  · simp
  · simp
  · split at hlayout
    · obtain rfl := List.mem_singleton.1 hlayout
      simp
    · cases hlayout

namespace Renaming

variable {table : Renaming}

theorem mem_of_image?_eq_some (h : table.keepUnmapped = false) {old new : String}
    (himage : table.image? old = some new) : new ∈ table.rules.map Prod.snd := by
  unfold image? at himage
  split at himage
  · next rule hrule =>
    obtain rfl := Option.some.inj himage
    exact List.mem_map_of_mem (List.mem_of_find?_eq_some hrule)
  · simp [h] at himage

/-- Where parameters without a rule are dropped, the names are those of the rules. -/
theorem apply_keys_subset (h : table.keepUnmapped = false) (parameters : Parameters) :
    (table.apply parameters).keys ⊆ table.rules.map Prod.snd := by
  refine List.Subset.trans (StringMap.keys_ofList_subset _) ?_
  intro name hname
  obtain ⟨entry, hentry, rfl⟩ := List.mem_map.1 hname
  obtain ⟨old, -, hold⟩ := List.mem_filterMap.1 hentry
  obtain ⟨new, hnew, rfl⟩ := Option.map_eq_some_iff.1 hold
  exact mem_of_image?_eq_some h hnew

end Renaming

namespace Converter

/-- **What the converters make of the macros of the table**: each its own target, without names that
the targets do not know. The body of a task list alone is rewritten. -/
theorem ofMacro_replaces (marker : String) {row : FamilyRow} (hrow : row ∈ familyTable)
    {o : Occurrence} (ho : row.source = o.id) :
    ∃ r, (ofMacro marker o.id).replace o = .ok r ∧ row.Replaces o r := by
  have htitle : (titleOnly o).keys ⊆ targetNames :=
    List.Subset.trans (titleOnly_keys_subset o) (by decide)
  have hcode : (codeParameters o).keys ⊆ targetNames :=
    List.Subset.trans (codeParameters_keys_subset o) (by decide)
  have htoc : (tocRenaming.apply o.parameters).keys ⊆ targetNames :=
    List.Subset.trans (Renaming.apply_keys_subset rfl o.parameters) (by decide)
  rw [← ho]
  simp only [familyTable, List.mem_cons, List.not_mem_nil, or_false] at hrow
  rcases hrow with rfl | rfl | rfl | rfl | rfl | rfl | rfl | rfl
  · exact ⟨_, rfl, rfl, htitle, fun h => absurd rfl h⟩
  · exact ⟨_, rfl, rfl, hcode, fun _ => rfl⟩
  · exact ⟨_, rfl, rfl, hcode, fun _ => rfl⟩
  · exact ⟨_, rfl, congrArg panelTarget ho.symm, htitle, fun _ => rfl⟩
  · exact ⟨_, rfl, congrArg panelTarget ho.symm, htitle, fun _ => rfl⟩
  · exact ⟨_, rfl, congrArg panelTarget ho.symm, htitle, fun _ => rfl⟩
  · exact ⟨_, rfl, congrArg panelTarget ho.symm, htitle, fun _ => rfl⟩
  · exact ⟨_, rfl, rfl, htoc, fun _ => rfl⟩

/-- Only a task list can be declined. -/
theorem accepts_ofMacro_iff (marker : String) (o : Occurrence) :
    (ofMacro marker o.id).accepts o = true ↔
      (o.id = "tasklist" → marker.toList <:+: o.body.toList) := by
  unfold ofMacro
  split
  · next hid => simp [hid, taskList, Text.occursIn_iff]
  · next hid =>
    refine iff_of_true ?_ fun h => absurd h hid
    split
    · rfl
    · split <;> rfl

end Converter

/-! ### What a registry of extensions does -/

namespace Registry

variable {ids : List String} {marker : String} {o : Occurrence}

theorem convert_of_not_enabled (h : ¬ Enabled ids o.id) :
    (ofExtensions ids marker).convert o = .ok .unchanged := by
  have hnone : (ofExtensions ids marker).get? o.id = none := by
    refine Option.eq_none_iff_forall_ne_some.2 fun c hc => ?_
    exact h ((get?_ofExtensions_iff c).1 hc).1
  rw [convert, hnone]

theorem convert_of_enabled (h : Enabled ids o.id) :
    (ofExtensions ids marker).convert o =
      if (Converter.ofMacro marker o.id).accepts o then
        ((Converter.ofMacro marker o.id).replace o).map .replaced
      else .ok .unchanged := by
  rw [convert, (get?_ofExtensions_iff _).2 ⟨h, rfl⟩]

/-- **What a registry of extensions does.** It depends on the extensions alone that the table knows
and that are among those named. It holds the macros of their families, and converts every
occurrence: it is left as it is if its family is not enabled, or if it is a task list without the
marker; otherwise it becomes the target of its row, with no other names than those of the targets,
and with its body unless it is a task list. -/
theorem ofExtensions_converts_families (ids : List String) (marker : String) :
    (∀ others : List String,
      (∀ row ∈ familyTable, row.extension ∈ others ↔ row.extension ∈ ids) →
        ofExtensions others marker = ofExtensions ids marker) ∧
    (∀ id, id ∈ (ofExtensions ids marker).keys ↔ Enabled ids id) ∧
    ∀ o : Occurrence, ∃ conversion, (ofExtensions ids marker).convert o = .ok conversion ∧
      (conversion = .unchanged ↔
        ¬ Enabled ids o.id ∨ o.id = "tasklist" ∧ ¬ marker.toList <:+: o.body.toList) ∧
      ∀ r, conversion = .replaced r →
        (∃ row ∈ familyTable, row.source = o.id ∧ row.extension ∈ ids ∧
          r.targetId = row.target) ∧
        (∀ name ∈ r.parameters.keys, name ∈ ["title", "language", "layout", "start", "depth"]) ∧
        (o.id ≠ "tasklist" → r.body = o.body) := by
  refine ⟨fun others => ofExtensions_eq_of_mem_iff, fun id => mem_keys_ofExtensions_iff, ?_⟩
  intro o
  by_cases henabled : Enabled ids o.id
  · by_cases haccepts : (Converter.ofMacro marker o.id).accepts o = true
    · obtain ⟨row, hrow, hsource, hextension⟩ := id henabled
      obtain ⟨r, hreplace, hreplaces⟩ := Converter.ofMacro_replaces marker hrow hsource
      refine ⟨.replaced r, ?_, iff_of_false (by rintro ⟨⟩) ?_, ?_⟩
      · rw [convert_of_enabled henabled, if_pos haccepts, hreplace]
        rfl
      · rintro (hnot | ⟨hid, habsent⟩)
        · exact hnot henabled
        · exact habsent ((Converter.accepts_ofMacro_iff marker o).1 haccepts hid)
      · rintro _ ⟨⟩
        exact ⟨⟨row, hrow, hsource, hextension, hreplaces.targetId_eq⟩, hreplaces.keys_subset,
          fun hid => hreplaces.body_eq (hsource ▸ hid)⟩
    · have hdeclined := mt (Converter.accepts_ofMacro_iff marker o).2 haccepts
      refine ⟨.unchanged, ?_, iff_of_true rfl (.inr (Classical.not_imp.1 hdeclined)), ?_⟩
      · rw [convert_of_enabled henabled, if_neg haccepts]
      · rintro _ ⟨⟩
  · refine ⟨.unchanged, convert_of_not_enabled henabled, iff_of_true rfl (.inl henabled), ?_⟩
    rintro _ ⟨⟩

/-- One extension, named twice around a name that the table does not know. -/
theorem ofExtensions_converts_families_of_panels :
    ofExtensions ["macro-panel", "macro-unknown", "macro-panel"] legacyMarker =
        ofExtensions ["macro-panel"] legacyMarker ∧
      ∃ conversion, (ofExtensions ["macro-panel"] legacyMarker).convert
          ⟨"tip", .empty, "Hello", by decide⟩ = .ok conversion ∧ conversion ≠ .unchanged := by
  obtain ⟨hnames, -, hconverts⟩ := ofExtensions_converts_families ["macro-panel"] legacyMarker
  refine ⟨hnames _ (by simp [familyTable]), ?_⟩
  obtain ⟨conversion, hconvert, hunchanged, -⟩ := hconverts ⟨"tip", .empty, "Hello", by decide⟩
  refine ⟨conversion, hconvert, ?_⟩
  rw [Ne, hunchanged]
  simp [Enabled, familyTable]

end Registry

end SpaceMigration
