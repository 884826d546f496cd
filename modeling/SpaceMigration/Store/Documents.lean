import SpaceMigration.Document
import SpaceMigration.Error
import SpaceMigration.Json.Parser
import SpaceMigration.Json.Printer
import SpaceMigration.Store.Tables

/-!
# Documents and metadata in a store

Saving a document replaces its row and its metadata row; a document without metadata has none.
Lookups by key and by space ignore case: they compare the lower-case column with the lower-case
form of what is looked for.
-/

namespace SpaceMigration

/-- A list of texts as JSON text. -/
def textsJson (texts : List String) : String :=
  (Json.Value.texts texts).compact

/-- The texts of a JSON text. -/
def readTexts (text : String) : Except MigrationError (List String) :=
  match (Json.Value.parse? text).bind (·.asList (·.asText)) with
  | some texts => .ok texts
  | none => .error malformedJson

namespace MetadataRow

/-- The row of a metadata record. -/
def ofMetadata (m : MigrationMetadata) : MetadataRow where
  key := m.key
  lowerKey := m.lowerKey
  spaceKey := m.spaceKey
  lowerSpaceKey := m.lowerSpaceKey
  title := m.title
  description := m.description
  fields := textsJson m.fields
  lowerFields := textsJson m.lowerFields

/-- The metadata record of a row. The lower-case columns are not read. -/
def decode (row : MetadataRow) : Except MigrationError MigrationMetadata :=
  (readTexts row.fields).map fun labels =>
    .ofParts row.key row.spaceKey row.title row.description labels

end MetadataRow

namespace Store

/-- Saves a document with its metadata, over any earlier one with its reference. -/
def saveDocument (document : TargetDocument) (store : Store) : Store where
  audit := store.audit
  documents := store.documents.insert document.reference.path ⟨document.title, document.content⟩
  metadata := match document.metadata with
    | none => store.metadata.erase document.reference.path
    | some m => store.metadata.insert document.reference.path (.ofMetadata m)

/-- The metadata of a reference, if it has a row. -/
def loadMetadata (store : Store) (reference : EntityReference) :
    Except MigrationError (Option MigrationMetadata) :=
  match store.metadata.get? reference.path with
  | none => .ok none
  | some row => row.decode.map some

/-- The document with a reference, if there is one. -/
def getDocument (store : Store) (reference : EntityReference) :
    Except MigrationError (Option TargetDocument) :=
  match store.documents.get? reference.path with
  | none => .ok none
  | some row =>
    (store.loadMetadata reference).map fun metadata =>
      some ⟨reference, row.title, row.content, metadata⟩

/-- The metadata records of the rows that pass a test, in byte order of their references. -/
def findMetadata (store : Store) (test : MetadataRow → Bool) :
    Except MigrationError (List MigrationMetadata) :=
  (store.metadata.entries.filter fun entry => test entry.2).mapM fun entry => entry.2.decode

/-- The metadata records with a key, ignoring case. -/
def findByKey (store : Store) (key : String) : Except MigrationError (List MigrationMetadata) :=
  store.findMetadata fun row => row.lowerKey == Text.lowercase key

/-- The metadata records of a space, ignoring case. -/
def findBySpace (store : Store) (spaceKey : String) :
    Except MigrationError (List MigrationMetadata) :=
  store.findMetadata fun row => row.lowerSpaceKey == Text.lowercase spaceKey

/-- The number of documents. -/
def documentCount (store : Store) : Nat :=
  store.documents.size

/-- Overwrites the fields text of a metadata row, and returns the number of rows changed. -/
def overwriteFields (reference : EntityReference) (fields : String) (store : Store) :
    Nat × Store :=
  match store.metadata.get? reference.path with
  | none => (0, store)
  | some row =>
    (1, { store with metadata := store.metadata.insert reference.path { row with fields } })

end Store

end SpaceMigration
