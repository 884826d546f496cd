import SpaceMigration.Error
import SpaceMigration.Json.Parser
import SpaceMigration.Json.Printer
import SpaceMigration.Json.Record
import SpaceMigration.Store.Tables

/-!
# Images of stores

The image of a store is what a file keeps of it: a mark of eight bytes, and the three tables as
JSON. The first byte of the mark is not UTF-8, so an image is not mistaken for a text. An empty file
is the image of a store without rows.

## Scope

The format stands in for that of SQLite's own file, which is left out. Only its round trip is meant
to be used: a store that is kept is opened again as it was (`Store.ofImage_image`). The bytes
themselves say nothing about a database file.
-/

namespace SpaceMigration

open Json (Value)

/-- A row of the audit table is written with all its columns. -/
def AuditRow.toJson (row : AuditRow) : Value :=
  .record [("executed", .bool row.executed), ("job_id", .text? row.jobId),
    ("outcome", .text? row.outcome), ("migrated_spaces", .text row.migratedSpaces),
    ("logs_json", .text row.logText), ("executed_at", .text? row.executedAt)]

/-- The columns of an audit row. -/
def AuditRow.ofJson? (v : Value) : Option AuditRow := do
  let fields ← v.fields? ["executed", "job_id", "outcome", "migrated_spaces", "logs_json",
    "executed_at"]
  let executed ← fields.required "executed" (·.asBool)
  let jobId ← fields.optional "job_id" (·.asText)
  let outcome ← fields.optional "outcome" (·.asText)
  let migratedSpaces ← fields.required "migrated_spaces" (·.asText)
  let logText ← fields.required "logs_json" (·.asText)
  let executedAt ← fields.optional "executed_at" (·.asText)
  return ⟨executed, jobId, outcome, migratedSpaces, logText, executedAt⟩

/-- A row of the table of documents is written with both its columns. -/
def DocumentRow.toJson (row : DocumentRow) : Value :=
  .record [("title", .text row.title), ("content", .text row.content)]

/-- The columns of a document row. -/
def DocumentRow.ofJson? (v : Value) : Option DocumentRow := do
  let fields ← v.fields? ["title", "content"]
  return ⟨← fields.required "title" (·.asText), ← fields.required "content" (·.asText)⟩

/-- A row of the table of metadata is written with all its columns. -/
def MetadataRow.toJson (row : MetadataRow) : Value :=
  .record [("key", .text row.key), ("lower_key", .text row.lowerKey),
    ("space_key", .text row.spaceKey), ("lower_space_key", .text row.lowerSpaceKey),
    ("title", .text row.title), ("description", .text row.description),
    ("fields", .text row.fields), ("lower_fields", .text row.lowerFields)]

/-- The columns of a metadata row. -/
def MetadataRow.ofJson? (v : Value) : Option MetadataRow := do
  let fields ← v.fields? ["key", "lower_key", "space_key", "lower_space_key", "title",
    "description", "fields", "lower_fields"]
  let column (name : String) : Option String := fields.required name (·.asText)
  return ⟨← column "key", ← column "lower_key", ← column "space_key", ← column "lower_space_key",
    ← column "title", ← column "description", ← column "fields", ← column "lower_fields"⟩

/-- A table is written as an object of its rows. -/
def tableJson {α : Type} (toJson : α → Value) (table : StringMap α) : Value :=
  .record (table.entries.map fun entry => (entry.1, toJson entry.2))

namespace Store

/-- A store is written as its three tables. -/
def toJson (store : Store) : Value :=
  .record [("audit", tableJson AuditRow.toJson store.audit),
    ("documents", tableJson DocumentRow.toJson store.documents),
    ("metadata", tableJson MetadataRow.toJson store.metadata)]

/-- The three tables of a store. -/
def ofJson? (v : Value) : Option Store := do
  let fields ← v.fields? ["audit", "documents", "metadata"]
  let audit ← fields.required "audit" (·.asMap AuditRow.ofJson?)
  let documents ← fields.required "documents" (·.asMap DocumentRow.ofJson?)
  let metadata ← fields.required "metadata" (·.asMap MetadataRow.ofJson?)
  return ⟨audit, documents, metadata⟩

/-- The bytes at the start of an image. -/
def imageMark : ByteArray :=
  ⟨#[0x89, 0x53, 0x50, 0x4D, 0x0D, 0x0A, 0x1A, 0x0A]⟩

/-- The image of a store. -/
def image (store : Store) : ByteArray :=
  imageMark ++ store.toJson.compact.toUTF8

/-- Reads an image. -/
def ofImage (bytes : ByteArray) : Except MigrationError Store :=
  if bytes.size = 0 then .ok empty
  else
    let store? : Option Store := do
      if (bytes.extract 0 imageMark.size).data ≠ imageMark.data then failure
      let text ← String.fromUTF8? (bytes.extract imageMark.size bytes.size)
      ofJson? (← Value.parse? text)
    match store? with
    | some store => .ok store
    | none => .error ⟨.database, "the file is not a database"⟩

end Store

end SpaceMigration
