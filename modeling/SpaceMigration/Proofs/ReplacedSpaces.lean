import Mathlib.Data.List.Flatten
import Mathlib.Data.List.Nodup
import SpaceMigration.Proofs.ExportText

/-!
# Spaces that are replaced

The text of an export may list a space key several times. The last of these spaces stands for the
key, and the documents of the others are lost: they are neither listed nor loaded, and nothing is
reported (`Export.parse_loses_replaced_space`). How much is lost can be told from the text. The
identifiers that are listed and the documents that are lost add up to the documents of the text.

## Main definitions

* `lastSpaces`, `replacedSpaces` — the spaces that count, and the others

## Main results

* `Export.perm_listed_ofSpaces` — all that is listed
* `Export.parse_keeps_last_spaces` — which documents of a text are kept
-/

namespace SpaceMigration

/-! ### The last space of each key -/

/-- The spaces of a list that no later one replaces. -/
def lastSpaces : List ExportSpace → List ExportSpace
  | [] => []
  | space :: rest =>
    if ∃ later ∈ rest, later.key = space.key then lastSpaces rest else space :: lastSpaces rest

/-- The spaces of a list that a later one with the same key replaces. -/
def replacedSpaces : List ExportSpace → List ExportSpace
  | [] => []
  | space :: rest =>
    if ∃ later ∈ rest, later.key = space.key then space :: replacedSpaces rest
    else replacedSpaces rest

theorem perm_lastSpaces_append_replacedSpaces (spaces : List ExportSpace) :
    (lastSpaces spaces ++ replacedSpaces spaces).Perm spaces := by
  induction spaces with
  | nil => exact .nil
  | cons space rest ih =>
    rw [lastSpaces, replacedSpaces]
    split
    · exact List.perm_middle.trans (ih.cons space)
    · exact ih.cons space

/-- A key that is there stands for one of its spaces. -/
theorem exists_lastWithKey {spaces : List ExportSpace} {key : String}
    (h : ∃ space ∈ spaces, space.key = key) : ∃ last, LastWithKey spaces key last := by
  obtain ⟨last, hlast⟩ := Export.mem_spaceKeys_iff.1 (Export.mem_spaceKeys_ofSpaces_iff.2 h)
  exact ⟨last, Export.get?_ofSpaces_eq_some_iff.1 hlast⟩

theorem lastWithKey_cons_iff {space : ExportSpace} {rest : List ExportSpace} {key : String}
    {last : ExportSpace} :
    LastWithKey (space :: rest) key last ↔
      LastWithKey rest key last ∨
        last = space ∧ space.key = key ∧ ∀ later ∈ rest, later.key ≠ key := by
  constructor
  · rintro ⟨before, after, hsplit, hkey, hafter⟩
    cases before with
    | nil =>
      obtain ⟨rfl, rfl⟩ := List.cons.inj hsplit
      exact .inr ⟨rfl, hkey, hafter⟩
    | cons first before =>
      obtain ⟨-, hrest⟩ := List.cons.inj hsplit
      exact .inl ⟨before, after, hrest, hkey, hafter⟩
  · rintro (h | ⟨rfl, hkey, hafter⟩)
    · exact h.append [space]
    · exact ⟨[], rest, rfl, hkey, hafter⟩

theorem mem_lastSpaces_iff {spaces : List ExportSpace} {space : ExportSpace} :
    space ∈ lastSpaces spaces ↔ LastWithKey spaces space.key space := by
  induction spaces with
  | nil => simp [lastSpaces, LastWithKey]
  | cons first rest ih =>
    rw [lastSpaces, lastWithKey_cons_iff, ← ih]
    split
    · next hlater =>
      obtain ⟨later, hmem, hkey⟩ := hlater
      refine ⟨.inl, ?_⟩
      rintro (h | ⟨rfl, -, hnone⟩)
      · exact h
      · exact absurd hkey (hnone later hmem)
    · next hlater =>
      rw [List.mem_cons, or_comm]
      refine or_congr_right ⟨?_, And.left⟩
      rintro rfl
      exact ⟨rfl, rfl, fun later hmem hkey => hlater ⟨later, hmem, hkey⟩⟩

theorem nodup_keys_lastSpaces (spaces : List ExportSpace) :
    ((lastSpaces spaces).map (·.key)).Nodup := by
  induction spaces with
  | nil => exact .nil
  | cons space rest ih =>
    rw [lastSpaces]
    split
    · exact ih
    · next hlater =>
      refine List.nodup_cons.2 ⟨?_, ih⟩
      intro hmem
      obtain ⟨later, hlast, hkey⟩ := List.mem_map.1 hmem
      exact hlater ⟨later, (mem_lastSpaces_iff.1 hlast).mem, hkey⟩

/-! ### What is kept -/

theorem firstWithId_of_mem {documents : List SourceDocument} (h : (documents.map (·.id)).Nodup)
    {document : SourceDocument} (hmem : document ∈ documents) :
    FirstWithId documents document.id document := by
  obtain ⟨before, after, rfl⟩ := List.append_of_mem hmem
  refine ⟨before, after, rfl, rfl, ?_⟩
  intro earlier hearlier hid
  rw [List.map_append, List.map_cons, List.nodup_append] at h
  exact h.2.2 _ (List.mem_map_of_mem hearlier) _ List.mem_cons_self hid

namespace Export

/-- The entries of an export are its last spaces by their keys. -/
theorem perm_entries_ofSpaces (spaces : List ExportSpace) :
    (ofSpaces spaces).entries.Perm ((lastSpaces spaces).map fun space => (space.key, space)) := by
  refine (List.perm_ext_iff_of_nodup ?_ ?_).2 ?_
  · exact .of_map Prod.fst (StringMap.nodup_keys _)
  · refine .of_map Prod.fst ?_
    rw [List.map_map]
    exact nodup_keys_lastSpaces spaces
  · rintro ⟨key, space⟩
    rw [StringMap.mem_entries_iff, get?_ofSpaces_eq_some_iff, List.mem_map]
    constructor
    · intro hlast
      obtain rfl := hlast.key_eq
      exact ⟨space, mem_lastSpaces_iff.2 hlast, rfl⟩
    · rintro ⟨other, hother, heq⟩
      obtain ⟨rfl, rfl⟩ := Prod.mk.inj heq
      exact mem_lastSpaces_iff.1 hother

/-- **All that is listed** are the identifiers of the documents of the last spaces. -/
theorem perm_listed_ofSpaces (spaces : List ExportSpace) :
    ((ofSpaces spaces).spaceKeys.flatMap (ofSpaces spaces).documentIds).Perm
      ((lastSpaces spaces).flatMap fun space => space.documents.map (·.id)) := by
  have hids : ∀ entry ∈ (ofSpaces spaces).entries,
      (ofSpaces spaces).documentIds entry.1 = entry.2.documents.map (·.id) := by
    intro entry hentry
    rw [documentIds, (StringMap.mem_entries_iff _ entry.1 entry.2).1 hentry]
  rw [spaceKeys, StringMap.keys, List.flatMap_map, List.flatMap_congr hids]
  refine ((perm_entries_ofSpaces spaces).flatMap_right _).trans ?_
  rw [List.flatMap_map]

variable {spaces before after : List ExportSpace} {space : ExportSpace} {document : SourceDocument}

/-- No two documents that are listed under one key have the same identifier. -/
def UniqueIds (spaces : List ExportSpace) : Prop :=
  ∀ key, ((spaces.filter fun space => space.key = key).flatMap fun space =>
    space.documents.map (·.id)).Nodup

theorem uniqueIds_of_nodup
    (h : (spaces.flatMap fun space => space.documents.map (·.id)).Nodup) : UniqueIds spaces :=
  fun _ => (List.filter_sublist.flatMap _).nodup h

/-- The documents of a space have other identifiers than each other and than those of later spaces
with its key. -/
theorem UniqueIds.of_split (h : UniqueIds (before ++ space :: after)) :
    (space.documents.map (·.id)).Nodup ∧ ∀ later ∈ after, later.key = space.key →
      ∀ document ∈ space.documents, document.id ∉ later.documents.map (·.id) := by
  have hnodup := h space.key
  rw [List.filter_append, List.filter_cons_of_pos (by simp), List.flatMap_append,
    List.flatMap_cons] at hnodup
  obtain ⟨hids, -, hother⟩ := List.nodup_append.1 (List.nodup_append.1 hnodup).2.1
  refine ⟨hids, ?_⟩
  intro later hlater hkey document hdocument hmem
  refine hother _ (List.mem_map_of_mem hdocument) document.id ?_ rfl
  exact List.mem_flatMap.2 ⟨later, List.mem_filter.2 ⟨hlater, by simpa using hkey⟩, hmem⟩

/-- A document of the last space with its key is listed and loaded. -/
theorem listed_and_loaded_of_last (hlast : LastWithKey spaces space.key space)
    (hids : (space.documents.map (·.id)).Nodup) (hdocument : document ∈ space.documents) :
    (∃ listed, (ofSpaces spaces).list space.key = .ok listed ∧ document.id ∈ listed) ∧
      (ofSpaces spaces).load space.key document.id = .ok document := by
  have hspace := get?_ofSpaces_eq_some_iff.2 hlast
  constructor
  · exact ⟨_, list_eq_ok_iff.2 ⟨space, hspace, rfl⟩, List.mem_map_of_mem hdocument⟩
  · exact load_eq_ok_iff.2 ⟨space, hspace, firstWithId_of_mem hids hdocument⟩

/-- A document of a space that is replaced is not listed, since the space that replaces it has no
document with the identifier. -/
theorem not_listed_of_replaced (hunique : UniqueIds (before ++ space :: after))
    (hlater : ∃ later ∈ after, later.key = space.key) (hdocument : document ∈ space.documents) :
    ¬ ∃ listed, (ofSpaces (before ++ space :: after)).list space.key = .ok listed ∧
      document.id ∈ listed := by
  rintro ⟨listed, hlist, hmem⟩
  obtain ⟨last, hlast⟩ := exists_lastWithKey hlater
  have hget : (ofSpaces (before ++ space :: after)).get? space.key = some last :=
    get?_ofSpaces_eq_some_iff.2 ((hlast.append [space]).append before)
  obtain ⟨found, hfound, rfl⟩ := list_eq_ok_iff.1 hlist
  cases hget.symm.trans hfound
  exact hunique.of_split.2 last hlast.mem hlast.key_eq document hdocument hmem

/-- **The documents of replaced spaces are lost, and no others.** If no two documents under one key
have the same identifier, a document of an accepted text is listed, and loaded as it was written,
exactly if no later space has the key of its space. What is listed and what is lost add up to the
documents of the text. -/
theorem parse_keeps_last_spaces (text : String) (spaces : List ExportSpace)
    (hread : spacesOf? text = some spaces) (hunique : UniqueIds spaces) :
    ∃ source, parse text = .ok source ∧
      (∀ before space after, spaces = before ++ space :: after → ∀ document ∈ space.documents,
        ((∃ listed, source.list space.key = .ok listed ∧ document.id ∈ listed) ↔
          ∀ later ∈ after, later.key ≠ space.key) ∧
        (source.load space.key document.id = .ok document ↔
          ∀ later ∈ after, later.key ≠ space.key)) ∧
      (source.spaceKeys.flatMap source.documentIds).length +
          ((replacedSpaces spaces).flatMap (·.documents)).length =
        (spaces.flatMap (·.documents)).length := by
  refine ⟨ofSpaces spaces, by rw [parse, hread], ?_, ?_⟩
  · rintro before space after rfl document hdocument
    have hkept (hlast : ∀ later ∈ after, later.key ≠ space.key) :=
      listed_and_loaded_of_last ⟨before, after, rfl, rfl, hlast⟩ hunique.of_split.1 hdocument
    have hlost (hlisted : ∃ listed, (ofSpaces (before ++ space :: after)).list space.key =
        .ok listed ∧ document.id ∈ listed) : ∀ later ∈ after, later.key ≠ space.key :=
      fun later hlater hkey => not_listed_of_replaced hunique ⟨later, hlater, hkey⟩ hdocument hlisted
    exact ⟨⟨hlost, fun h => (hkept h).1⟩,
      ⟨fun hload => hlost (exists_load_iff.1 ⟨document, hload⟩), fun h => (hkept h).2⟩⟩
  · have hdocuments := ((perm_lastSpaces_append_replacedSpaces spaces).flatMap_right
      (·.documents)).length_eq
    rw [List.flatMap_append, List.length_append] at hdocuments
    rw [← hdocuments, (perm_listed_ofSpaces spaces).length_eq, ← List.map_flatMap, List.length_map]

/-- Of three spaces the first is replaced by the last, and its document is lost. -/
theorem parse_keeps_last_spaces_of_three :
    let home : SourceDocument := ⟨"home", "Home", [], "", []⟩
    let news : SourceDocument := ⟨"news", "News", [], "", [.text "Ho"]⟩
    let spaces : List ExportSpace := [⟨"ENG", "Engineering", [home]⟩,
      ⟨"OPS", "Operations", [home]⟩, ⟨"ENG", "Engineering", [news]⟩]
    spacesOf? (textOf spaces) = some spaces ∧ UniqueIds spaces ∧
      ∃ source, parse (textOf spaces) = .ok source ∧ source.load "ENG" "news" = .ok news ∧
        source.load "OPS" "home" = .ok home ∧ source.load "ENG" "home" ≠ .ok home ∧
        (source.spaceKeys.flatMap source.documentIds).length + 1 = 3 := by
  intro home news spaces
  let old : ExportSpace := ⟨"ENG", "Engineering", [home]⟩
  let other : ExportSpace := ⟨"OPS", "Operations", [home]⟩
  let new : ExportSpace := ⟨"ENG", "Engineering", [news]⟩
  have hread := spacesOf?_textOf spaces
  have hunique : UniqueIds spaces := by
    intro key
    by_cases heng : key = "ENG"
    · subst heng
      decide
    · by_cases hops : key = "OPS"
      · subst hops
        decide
      · simp [spaces, Ne.symm heng, Ne.symm hops]
  obtain ⟨source, hparse, hkept, hlength⟩ := parse_keeps_last_spaces _ spaces hread hunique
  refine ⟨hread, hunique, source, hparse, ?_, ?_, ?_, hlength⟩
  · exact ((hkept [old, other] new [] rfl news (.head _)).2).2 (by simp)
  · exact ((hkept [old] other [new] rfl home (.head _)).2).2 (by simp [other, new])
  · intro hload
    have hlast := ((hkept [] old [other, new] rfl home (.head _)).2).1 hload
    exact hlast new (.tail _ (.head _)) rfl

/-- **A document can be lost**: of two spaces with one key and one document each, the first document
is not found. -/
theorem parse_loses_replaced_space :
    let home : SourceDocument := ⟨"home", "Home", [], "", []⟩
    let news : SourceDocument := ⟨"news", "News", [], "", []⟩
    let spaces : List ExportSpace := [⟨"ENG", "Engineering", [home]⟩, ⟨"ENG", "Engineering", [news]⟩]
    spacesOf? (textOf spaces) = some spaces ∧ UniqueIds spaces ∧
      ∃ source, parse (textOf spaces) = .ok source ∧ source.list "ENG" = .ok ["news"] ∧
        source.load "ENG" "home" = .error ⟨.notFound, "document home in space ENG"⟩ ∧
        (source.spaceKeys.flatMap source.documentIds).length = 1 ∧
        (spaces.flatMap (·.documents)).length = 2 := by
  intro home news spaces
  have hlast : LastWithKey spaces "ENG" ⟨"ENG", "Engineering", [news]⟩ :=
    ⟨[_], [], rfl, rfl, by simp⟩
  have hlist : (ofSpaces spaces).list "ENG" = .ok ["news"] :=
    list_eq_ok_iff.2 ⟨_, get?_ofSpaces_eq_some_iff.2 hlast, rfl⟩
  refine ⟨spacesOf?_textOf spaces, uniqueIds_of_nodup (by decide), ofSpaces spaces,
    parse_textOf spaces, hlist, ?_, (perm_listed_ofSpaces spaces).length_eq, rfl⟩
  exact load_eq_error_iff.2 (.inr ⟨_, hlist, by simp, rfl⟩)

end Export

end SpaceMigration
