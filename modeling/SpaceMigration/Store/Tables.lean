import SpaceMigration.StringMap

/-!
# The tables of a store

A store keeps three tables: audit rows by audit document, document rows by reference, and metadata
rows by reference. Rows hold texts; reading a row decodes them, and a row may hold a text that does
not decode. Tables are maps in key order, so a scan meets the rows in byte order of their keys.
-/

namespace SpaceMigration

/-- A row of the audit table. -/
structure AuditRow where
  executed : Bool
  jobId : Option String
  /-- The word for the outcome. -/
  outcome : Option String
  /-- The migrated spaces as JSON text. -/
  migratedSpaces : String
  /-- The log as JSON text. -/
  logText : String
  /-- The time of the record in the format of RFC 3339. -/
  executedAt : Option String
deriving DecidableEq, Repr

/-- A row of the table of documents. -/
structure DocumentRow where
  title : String
  content : String
deriving DecidableEq, Repr

/-- A row of the table of metadata, with the lower-case forms as columns of their own. -/
structure MetadataRow where
  key : String
  lowerKey : String
  spaceKey : String
  lowerSpaceKey : String
  title : String
  description : String
  /-- The fields as JSON text. -/
  fields : String
  /-- The fields in lower case as JSON text. -/
  lowerFields : String
deriving DecidableEq, Repr

/-- A store: its three tables. -/
structure Store where
  audit : StringMap AuditRow
  documents : StringMap DocumentRow
  metadata : StringMap MetadataRow

namespace Store

/-- The store without rows. -/
def empty : Store := ⟨.empty, .empty, .empty⟩

instance : Inhabited Store := ⟨empty⟩

end Store

end SpaceMigration
