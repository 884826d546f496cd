import SpaceMigration.Macro.Families
import SpaceMigration.Proofs.ByteOrder

/-!
# Renamed parameters

A table of names renames the parameters of a macro one by one, in the order of their names, and what
comes later replaces what came before. Rules may repeat their old names, several old names may share
a new one, and a name without a rule may stay what it is, so that it meets a renamed one.
`Renaming.Maps` says what becomes of a name; which values are kept then follows from the order of
the parameters alone.

## Main definitions

* `Renaming.Maps` — what a table makes of a name

## Main results

* `Renaming.get?_apply_eq_some_iff` — of the parameters that share a name the last one is kept
* `Converter.rename_keeps_greatest_sources` — the parameters of a renamed macro
-/

namespace SpaceMigration

namespace Renaming

/-! ### What becomes of a name -/

/-- The table makes the new name of the old one: by the first rule for the old name, or, if there
is none, by keeping the name. -/
def Maps (table : Renaming) (old new : String) : Prop :=
  (∃ before after, table.rules = before ++ (old, new) :: after ∧ old ∉ before.map Prod.fst) ∨
    old ∉ table.rules.map Prod.fst ∧ table.keepUnmapped = true ∧ new = old

variable {table : Renaming} {parameters : Parameters}

theorem image?_eq_or (table : Renaming) (name : String) :
    table.image? name = (StringMap.lookup name table.rules).or
      (if table.keepUnmapped then some name else none) := by
  rw [image?]
  induction table.rules with
  | nil => rfl
  | cons rule rest ih =>
    rw [List.find?_cons, StringMap.lookup]
    by_cases hname : rule.1 = name
    · rw [if_pos hname, beq_iff_eq.2 hname, Option.some_or]
    · rw [if_neg hname, beq_false_of_ne hname]
      exact ih

theorem image?_eq_some_iff {old new : String} :
    table.image? old = some new ↔ table.Maps old new := by
  rw [image?_eq_or, Option.or_eq_some_iff, StringMap.lookup_eq_some_iff,
    StringMap.lookup_eq_none_iff, Maps]
  refine or_congr_right (and_congr_right fun _ => ?_)
  split
  · next hkeep => simp [hkeep, eq_comm]
  · next hdrop => simp [hdrop]

/-- A name becomes at most one name. -/
theorem Maps.unique {old new other : String} (h : table.Maps old new)
    (h' : table.Maps old other) : new = other := by
  rw [← image?_eq_some_iff] at h h'
  exact Option.some.inj (h.symm.trans h')

theorem isSome_image?_iff {old : String} :
    (table.image? old).isSome = true ↔ ∃ new, table.Maps old new := by
  simp only [Option.isSome_iff_exists, image?_eq_some_iff]

instance (table : Renaming) (old : String) : Decidable (∃ new, table.Maps old new) :=
  decidable_of_iff _ isSome_image?_iff

/-! ### Which parameters are kept -/

/-- A parameter under its new name. -/
def renamed? (table : Renaming) (entry : String × String) : Option (String × String) :=
  (table.image? entry.1).map fun name => (name, entry.2)

theorem renamed?_eq_some_iff {entry : String × String} {name value : String} :
    table.renamed? entry = some (name, value) ↔ table.Maps entry.1 name ∧ entry.2 = value := by
  simp [renamed?, image?_eq_some_iff]

theorem mem_keys_apply_iff {name : String} :
    name ∈ (table.apply parameters).keys ↔ ∃ old ∈ parameters.keys, table.Maps old name := by
  have hkeys : name ∈ (table.apply parameters).keys ↔
      name ∈ (parameters.entries.filterMap table.renamed?).map Prod.fst :=
    StringMap.mem_keys_ofList_iff _ _
  rw [hkeys]
  constructor
  · intro hname
    obtain ⟨⟨name, value⟩, hrenamed, rfl⟩ := List.mem_map.1 hname
    obtain ⟨entry, hentry, hmaps⟩ := List.mem_filterMap.1 hrenamed
    exact ⟨entry.1, List.mem_map_of_mem hentry, (renamed?_eq_some_iff.1 hmaps).1⟩
  · rintro ⟨old, hold, hmaps⟩
    obtain ⟨entry, hentry, rfl⟩ := List.mem_map.1 hold
    have hrenamed := renamed?_eq_some_iff.2 ⟨hmaps, rfl⟩
    exact List.mem_map_of_mem (List.mem_filterMap.2 ⟨entry, hentry, hrenamed⟩)

/-- **Of the parameters that share a name the last one is kept**, which has the greatest old
name. -/
theorem get?_apply_eq_some_iff {name value : String} :
    (table.apply parameters).get? name = some value ↔
      ∃ old, parameters.get? old = some value ∧ table.Maps old name ∧
        ∀ other ∈ parameters.keys, table.Maps other name → other ≠ old → other < old := by
  change (StringMap.ofList (parameters.entries.filterMap table.renamed?)).get? name = _ ↔ _
  rw [StringMap.get?_ofList_eq_some_iff_last]
  constructor
  · rintro ⟨before, after, hsplit, hlast⟩
    obtain ⟨front, rest, hfront, -, hrest⟩ := List.filterMap_eq_append_iff.1 hsplit
    obtain ⟨skipped, ⟨old, kept⟩, back, rfl, -, hold, rfl⟩ := List.filterMap_eq_cons_iff.1 hrest
    obtain ⟨hmaps, rfl⟩ := renamed?_eq_some_iff.1 hold
    have hentries : parameters.entries = (front ++ skipped) ++ (old, kept) :: back := by
      rw [hfront, List.append_assoc]
    obtain ⟨hsmaller, -⟩ := StringMap.lt_of_entries_eq_append hentries
    refine ⟨old, ?_, hmaps, ?_⟩
    · rw [← StringMap.mem_entries_iff, hentries]
      exact List.mem_append_right _ (List.mem_cons_self ..)
    · intro other hother hname hne
      obtain ⟨entry, hentry, rfl⟩ := List.mem_map.1 hother
      rw [hentries] at hentry
      rcases List.mem_append.1 hentry with hentry | hentry
      · exact hsmaller entry hentry
      · rcases List.mem_cons.1 hentry with rfl | hback
        · exact absurd rfl hne
        · have hrenamed := renamed?_eq_some_iff.2 ⟨hname, rfl⟩
          exact absurd (List.mem_map_of_mem (List.mem_filterMap.2 ⟨entry, hback, hrenamed⟩)) hlast
  · rintro ⟨old, hold, hmaps, hgreatest⟩
    rw [← StringMap.mem_entries_iff] at hold
    obtain ⟨front, back, hentries⟩ := List.append_of_mem hold
    obtain ⟨-, hgreater⟩ := StringMap.lt_of_entries_eq_append hentries
    refine ⟨front.filterMap table.renamed?, back.filterMap table.renamed?, ?_, ?_⟩
    · rw [hentries, List.filterMap_append,
        List.filterMap_cons_some (renamed?_eq_some_iff.2 ⟨hmaps, rfl⟩)]
    · intro hname
      obtain ⟨⟨name, other⟩, hrenamed, rfl⟩ := List.mem_map.1 hname
      obtain ⟨entry, hback, hentry⟩ := List.mem_filterMap.1 hrenamed
      have hlater : old < entry.1 := hgreater entry hback
      have hkey : entry.1 ∈ parameters.keys := by
        refine List.mem_map_of_mem ?_
        rw [hentries]
        exact List.mem_append_right _ (List.mem_cons_of_mem _ hback)
      have hsmaller := hgreatest entry.1 hkey (renamed?_eq_some_iff.1 hentry).1
        (String.ne_of_lt hlater).symm
      exact String.lt_asymm hlater hsmaller

/-- A renamed parameter meets one that keeps its name. -/
example : (Renaming.apply ⟨"box", [("title", "name")], true⟩
    (.ofList [("title", "new"), ("name", "old")])).entries = [("name", "new")] := by decide

/-! ### Names that stay apart -/

/-- No two parameters share a new name. -/
def KeepsApart (table : Renaming) (parameters : Parameters) : Prop :=
  ∀ old ∈ parameters.keys, ∀ other ∈ parameters.keys, ∀ name,
    table.Maps old name → table.Maps other name → old = other

/-- Where names stay apart, no value is lost. -/
theorem KeepsApart.get?_apply (h : table.KeepsApart parameters) {old name value : String}
    (hold : parameters.get? old = some value) (hmaps : table.Maps old name) :
    (table.apply parameters).get? name = some value := by
  refine get?_apply_eq_some_iff.2 ⟨old, hold, hmaps, ?_⟩
  intro other hother hname hne
  have hkey : old ∈ parameters.keys := (StringMap.mem_keys_iff ..).2 ⟨value, hold⟩
  exact absurd (h other hother old hkey name hname hmaps) hne

/-- Where names stay apart, there is one parameter for each name that becomes one. -/
theorem KeepsApart.size_apply (h : table.KeepsApart parameters) :
    (table.apply parameters).size =
      parameters.keys.countP fun old => ∃ name, table.Maps old name := by
  have hnodup : (parameters.keys.filterMap table.image?).Nodup := by
    rw [List.Nodup, List.pairwise_filterMap]
    refine parameters.nodup_keys.imp_of_mem fun hold hother hne name hname other' hother' heq => ?_
    subst heq
    rw [image?_eq_some_iff] at hname hother'
    exact hne (h _ hold _ hother _ hname hother')
  have hmem (name : String) : name ∈ (table.apply parameters).keys ↔
      name ∈ parameters.keys.filterMap table.image? := by
    simp only [mem_keys_apply_iff, List.mem_filterMap, image?_eq_some_iff]
  have hperm := (List.perm_ext_iff_of_nodup (StringMap.nodup_keys _) hnodup).2 hmem
  have hlength :
      (table.apply parameters).size = (parameters.keys.filterMap table.image?).length := by
    rw [← hperm.length_eq, StringMap.keys, List.length_map, StringMap.size]
  rw [hlength, List.length_filterMap_eq_countP]
  refine List.countP_congr fun old _ => ?_
  rw [decide_eq_true_iff, isSome_image?_iff]

end Renaming

/-- **The parameters of a renamed macro**, whatever the table. The new names are those that the
table makes of the names there are, and each has the value of the bytewise greatest name that became
it. So where no two names become one, no value is lost, and there are as many parameters as names
that the table keeps. -/
theorem Converter.rename_keeps_greatest_sources (table : Renaming) (o : Occurrence) :
    ∃ converted : Parameters,
      (Converter.rename table).replace o = .ok ⟨table.target, converted, o.body⟩ ∧
      (∀ name, name ∈ converted.keys ↔ ∃ old ∈ o.parameters.keys, table.Maps old name) ∧
      (∀ name value, converted.get? name = some value ↔
        ∃ old, o.parameters.get? old = some value ∧ table.Maps old name ∧
          ∀ other ∈ o.parameters.keys, table.Maps other name → other ≠ old →
            Text.bytes other < Text.bytes old) ∧
      (table.KeepsApart o.parameters →
        (∀ old name value, o.parameters.get? old = some value → table.Maps old name →
          converted.get? name = some value) ∧
        converted.size = o.parameters.keys.countP fun old => ∃ name, table.Maps old name) := by
  refine ⟨table.apply o.parameters, rfl, fun _ => Renaming.mem_keys_apply_iff, ?_, ?_⟩
  · intro name value
    simp only [Text.bytes_lt_bytes_iff]
    exact Renaming.get?_apply_eq_some_iff
  · intro hapart
    exact ⟨fun _ _ _ hold hmaps => hapart.get?_apply hold hmaps, hapart.size_apply⟩

/-- Of two rules for one name the first counts, so three names stay apart although the table has a
new name twice. -/
theorem Converter.rename_keeps_greatest_sources_of_repeated_rules :
    let table : Renaming :=
      ⟨"toc", [("minLevel", "start"), ("minLevel", "depth"), ("maxLevel", "depth")], true⟩
    let parameters : Parameters :=
      .ofList [("style", "flat"), ("minLevel", "1"), ("maxLevel", "3")]
    let o : Occurrence := ⟨"toc", parameters, "", by decide⟩
    table.KeepsApart parameters ∧ parameters.get? "maxLevel" = some "3" ∧
      table.Maps "maxLevel" "depth" ∧
      ∃ converted, (Converter.rename table).replace o = .ok ⟨"toc", converted, ""⟩ ∧
        converted.get? "depth" = some "3" ∧ converted.size = 3 := by
  intro table parameters o
  have himages : ∀ old ∈ parameters.keys, ∀ other ∈ parameters.keys,
      table.image? old = table.image? other → old = other := by decide
  have hapart : table.KeepsApart parameters := by
    intro old hold other hother name hname hother'
    rw [← Renaming.image?_eq_some_iff] at hname hother'
    exact himages old hold other hother (hname.trans hother'.symm)
  have hvalue : parameters.get? "maxLevel" = some "3" := by decide
  have hmaps : table.Maps "maxLevel" "depth" := Renaming.image?_eq_some_iff.1 (by decide)
  obtain ⟨converted, hreplace, -, -, hkept⟩ := rename_keeps_greatest_sources table o
  obtain ⟨hvalues, hsize⟩ := hkept hapart
  exact ⟨hapart, hvalue, hmaps, converted, hreplace, hvalues _ _ _ hvalue hmaps,
    hsize.trans (by decide)⟩

end SpaceMigration
