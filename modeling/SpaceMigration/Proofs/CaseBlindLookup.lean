import SpaceMigration.Proofs.LowerCase
import SpaceMigration.Proofs.StoredDocuments

/-!
# Looking things up in lower case

Whoever asks for a key, a space or a field may write it in any case, and so in lower case too. A
lookup writes what it is asked for in lower case and compares that with a form that was stored.
Since lower case is final, asking for the form itself finds what asking for the original finds, and
what is stored is found under its own form.

## Main results

* `Store.mem_found_of_getDocument` — the metadata of a stored document is found under its own forms
* `lookups_accept_lower_case` — all lookups, after any history of a store
-/

namespace SpaceMigration

/-! ### A form for its original -/

theorem Store.findByKey_lowercase (store : Store) (key : String) :
    store.findByKey (Text.lowercase key) = store.findByKey key := by
  rw [findByKey, findByKey, Text.lowercase_lowercase]

theorem Store.findBySpace_lowercase (store : Store) (spaceKey : String) :
    store.findBySpace (Text.lowercase spaceKey) = store.findBySpace spaceKey := by
  rw [findBySpace, findBySpace, Text.lowercase_lowercase]

theorem MigrationMetadata.hasField_lowercase (m : MigrationMetadata) (label : String) :
    m.hasField (Text.lowercase label) = m.hasField label := by
  rw [hasField, hasField, Text.lowercase_lowercase]

/-- A record has the fields whose forms it lists. -/
theorem MigrationMetadata.hasField_of_mem_lowerFields {m : MigrationMetadata} {form : String}
    (h : form ∈ m.lowerFields) : m.hasField form = true := by
  have hform := h
  rw [m.lowerFields_eq, List.mem_map] at hform
  obtain ⟨label, -, rfl⟩ := hform
  rw [hasField_lowercase, hasField, List.contains_iff_mem]
  exact h

/-! ### Stored metadata -/

/-- The metadata of a stored document is found by a test that its row passes. -/
theorem Store.mem_findMetadata {saved : List TargetDocument} {store : Store}
    (hstore : store.SameDocuments (empty.saveAll saved)) {reference : EntityReference}
    {document : TargetDocument} (h : store.getDocument reference = .ok (some document))
    {m : MigrationMetadata} (hm : document.metadata = some m) {test : MetadataRow → Bool}
    (htest : test (.ofMetadata m) = true) :
    ∃ found, store.findMetadata test = .ok found ∧ m ∈ found := by
  rw [hstore.getDocument, getDocument_saveAll] at h
  have hlast : lastSaved saved reference = some document := Except.ok.inj h
  obtain rfl := reference_of_lastSaved hlast
  rw [hstore.findMetadata, findMetadata_saveAll]
  refine ⟨_, rfl, List.mem_filter.2 ⟨?_, htest⟩⟩
  exact List.mem_filterMap.2 ⟨document, (mem_current_iff saved document).2 hlast, hm⟩

/-- **Lookups accept what is written in lower case.** Asking a store for a key or a space in lower
case finds what asking for it in any other case finds, whatever has happened to the store, and the
metadata of each of its documents is found under the lower-case forms that were stored with it. In
the same way a record is asked for its fields. -/
theorem lookups_accept_lower_case (operations : List StoreOperation) :
    let (_, store) := performAll operations .empty
    (∀ key, store.findByKey key = store.findByKey (Text.lowercase key)) ∧
      (∀ spaceKey, store.findBySpace spaceKey = store.findBySpace (Text.lowercase spaceKey)) ∧
      (∀ reference document m, store.getDocument reference = .ok (some document) →
        document.metadata = some m →
        (∃ found, store.findByKey m.lowerKey = .ok found ∧ m ∈ found) ∧
          ∃ found, store.findBySpace m.lowerSpaceKey = .ok found ∧ m ∈ found) ∧
      ∀ m : MigrationMetadata,
        (∀ label, m.hasField label = m.hasField (Text.lowercase label)) ∧
          ∀ form ∈ m.lowerFields, m.hasField form = true := by
  have h := performAll_sameDocuments operations .empty
  generalize performAll operations .empty = outcome at h ⊢
  obtain ⟨events, store⟩ := outcome
  change store.SameDocuments _ at h
  refine ⟨fun key => (store.findByKey_lowercase key).symm,
    fun spaceKey => (store.findBySpace_lowercase spaceKey).symm, ?_, ?_⟩
  · intro reference document m hdocument hm
    constructor
    · rw [m.lowerKey_eq, store.findByKey_lowercase]
      exact Store.mem_findMetadata h hdocument hm (by simp [MetadataRow.ofMetadata, m.lowerKey_eq])
    · rw [m.lowerSpaceKey_eq, store.findBySpace_lowercase]
      exact Store.mem_findMetadata h hdocument hm
        (by simp [MetadataRow.ofMetadata, m.lowerSpaceKey_eq])
  · exact fun m => ⟨fun label => (m.hasField_lowercase label).symm,
      fun form hform => m.hasField_of_mem_lowerFields hform⟩

/-- The form of the key ends in the other small sigma, and that of the space has a character more
than the space. -/
theorem lookups_accept_final_sigma :
    let m := MigrationMetadata.new "ΟΔΟΣ" "İZMİR" "Roads"
    let document : TargetDocument := ⟨⟨"Migrated.Roads"⟩, "Roads", "", some m⟩
    let (_, store) := performAll [.saveDocument document] .empty
    m.lowerKey = "οδος" ∧ m.lowerSpaceKey = "i\u0307zmi\u0307r" ∧
      store.getDocument ⟨"Migrated.Roads"⟩ = .ok (some document) ∧
      (∃ found, store.findByKey "οδος" = .ok found ∧ m ∈ found) ∧
      ∃ found, store.findBySpace "i\u0307zmi\u0307r" = .ok found ∧ m ∈ found := by
  intro m document
  have hkey : m.lowerKey = "οδος" := by decide +kernel
  have hspace : m.lowerSpaceKey = "i\u0307zmi\u0307r" := by decide +kernel
  have hdocument : (performAll [.saveDocument document] .empty).2.getDocument
      ⟨"Migrated.Roads"⟩ = .ok (some document) :=
    Store.getDocument_saveAll [document] ⟨"Migrated.Roads"⟩
  obtain ⟨-, -, hfound, -⟩ := lookups_accept_lower_case [.saveDocument document]
  obtain ⟨hbyKey, hbySpace⟩ := hfound _ document m hdocument rfl
  rw [hkey] at hbyKey
  rw [hspace] at hbySpace
  exact ⟨hkey, hspace, hdocument, hbyKey, hbySpace⟩

end SpaceMigration
