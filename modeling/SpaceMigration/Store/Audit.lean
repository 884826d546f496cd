import SpaceMigration.Audit.Completion
import SpaceMigration.Json.Parser
import SpaceMigration.Store.Tables

/-!
# Audit records in a store

A row is created unexecuted and written once. Writing does not decode what it replaces; reading
decodes the outcome first, then the time, then the migrated spaces.

Every operation takes the store last and returns its result with the store after it, whether it
succeeded or not.
-/

namespace SpaceMigration

namespace AuditRow

/-- The row of a record that waits for its job. -/
def unexecuted : AuditRow :=
  ⟨false, none, none, "[]", "[]", none⟩

/-- The row of an executed record. A record without a time is stamped with the current one. -/
def ofRecord (record : AuditRecord) (now : Timestamp) : AuditRow where
  executed := true
  jobId := record.jobId
  outcome := record.outcome.map JobOutcome.name
  migratedSpaces := (Json.Value.array (record.migratedSpaces.map EntityReference.toJson)).compact
  logText := record.logText
  executedAt := some (record.executedAt.getD now).toOffsetText

/-- What is said of a stored time that is not in the format of RFC 3339. -/
def timeFault : String := "the stored time is not in the format of RFC 3339"

/-- The outcome of a row. -/
def readOutcome (document : String) : Option String → Except MigrationError (Option JobOutcome)
  | none => .ok none
  | some text =>
    match JobOutcome.ofName? text with
    | some outcome => .ok (some outcome)
    | none => .error ⟨.persistence, s!"unknown outcome '{text}' in {document}"⟩

/-- The time of a row. -/
def readTime : Option String → Except MigrationError (Option Timestamp)
  | none => .ok none
  | some text =>
    match Timestamp.readStrict text with
    | some time => .ok (some time)
    | none => .error ⟨.persistence, timeFault⟩

/-- The migrated spaces of a row. -/
def readSpaces (text : String) : Except MigrationError (List EntityReference) :=
  match (Json.Value.parse? text).bind (·.asList EntityReference.ofJson?) with
  | some spaces => .ok spaces
  | none => .error malformedJson

/-- The record of a row. -/
def decode (document : String) (row : AuditRow) : Except MigrationError AuditRecord := do
  let outcome ← readOutcome document row.outcome
  let executedAt ← readTime row.executedAt
  let migratedSpaces ← readSpaces row.migratedSpaces
  return ⟨⟨document⟩, row.executed, row.jobId, outcome, migratedSpaces, row.logText, executedAt⟩

end AuditRow

namespace Store

/-- The record of an audit document, if it has a row. -/
def loadRecord (store : Store) (document : EntityReference) :
    Except MigrationError (Option AuditRecord) :=
  match store.audit.get? document.path with
  | none => .ok none
  | some row => (row.decode document.path).map some

/-- The store in which the audit document has a row. -/
def withAuditRow (store : Store) (document : EntityReference) : Store :=
  if store.audit.contains document.path then store
  else { store with audit := store.audit.insert document.path .unexecuted }

/-- Creates an unexecuted record, unless there is a row, and returns the record. -/
def createRecord (document : EntityReference) (store : Store) :
    Except MigrationError AuditRecord × Store :=
  let store := store.withAuditRow document
  match store.loadRecord document with
  | .error e => (.error e, store)
  | .ok (some record) => (.ok record, store)
  | .ok none => (.error (Completion.noDocument document), store)

/-- Writes an executed record over an unexecuted row. Returns `false`, and writes nothing, when the
row is executed. -/
def saveExecuted (now : Timestamp) (record : AuditRecord) (store : Store) :
    Except MigrationError Bool × Store :=
  if !record.executed then
    (.error ⟨.persistence,
      s!"refusing to save unexecuted record for {record.document.path}"⟩, store)
  else match store.audit.get? record.document.path with
    | none => (.error (Completion.noDocument record.document), store)
    | some row =>
      if row.executed then (.ok false, store)
      else
        (.ok true,
          { store with audit := store.audit.insert record.document.path (.ofRecord record now) })

/-- The store as a place to record finished jobs. -/
def asAuditStore (now : Timestamp) : AuditStore (StateM Store) where
  load document := fun store => (store.loadRecord document, store)
  saveExecuted record := fun store => store.saveExecuted now record

/-- Records a signal in the store. -/
def record (now : Timestamp) (signal : JobFinished) (store : Store) :
    Except MigrationError Completion × Store :=
  recordCompletion (asAuditStore now) now signal store

end Store

end SpaceMigration
