import SpaceMigration.Audit.Record

/-!
# Recording finished jobs

A job that ends announces it with a `JobFinished` signal, and `recordCompletion` turns the signal
into the audit record of the job. Signals may be delivered more than once, and several deliveries
may race for the same record:

* a repeat with the same content is a no-op;
* a repeat that would change an executed record is refused;
* of two deliveries that race, the store lets one write, and the other one is judged by what it
  finds afterwards.

The record is reached through an `AuditStore m`, in any monad `m`; each of its calls is one atomic
step.
-/

namespace SpaceMigration

/-- The announcement that a job has ended. -/
structure JobFinished where
  jobType : String
  job : JobSnapshot
deriving DecidableEq

/-- What recording a signal did. -/
inductive Completion where
  /-- The audit record was written. -/
  | recorded
  /-- The run was recorded before; nothing was written. -/
  | alreadyRecorded
  /-- The signal is that of another type of job. -/
  | ignored
deriving DecidableEq, Repr

/-- The two steps of an audit store that recording takes. -/
structure AuditStore (m : Type → Type) where
  /-- The record of a document, if there is one. -/
  load : EntityReference → m (Except MigrationError (Option AuditRecord))
  /-- Writes an executed record, unless the stored one is executed; says whether it wrote. -/
  saveExecuted : AuditRecord → m (Except MigrationError Bool)

namespace Completion

/-- The error of an audit document without a record. -/
def noDocument (document : EntityReference) : MigrationError :=
  ⟨.notFound, "audit document " ++ document.path⟩

/-- Judges a signal against the executed record it meets. -/
def judge (existing record : AuditRecord) : Except MigrationError Completion :=
  if existing.sameContent record then .ok .alreadyRecorded
  else .error ⟨.alreadyExecuted,
    record.document.path ++ " was executed by job " ++ existing.jobId.getD "<unknown>"⟩

/-- The reason to turn a signal away before the store is asked. -/
def precheck (signal : JobFinished) : Option (Except MigrationError Completion) :=
  if signal.jobType ≠ migrationJobType then some (.ok .ignored)
  else if !signal.job.state.isTerminal then
    some (.error ⟨.invalidState, s!"job {signal.job.id} finished signal carries " ++
      s!"non-terminal state {signal.job.state.display}"⟩)
  else none

/-- The error of a failed load, as it is reported. -/
def loadFailed (document : EntityReference) (e : MigrationError) : MigrationError :=
  ⟨.persistence, s!"failed to load audit record {document.path}: {e.message}"⟩

/-- The error of a failed save, as it is reported. -/
def saveFailed (document : EntityReference) (e : MigrationError) : MigrationError :=
  ⟨.persistence, s!"failed to save audit record {document.path}: {e.message}"⟩

end Completion

open Completion in
/-- Records a signal. -/
def recordCompletion {m : Type → Type} [Monad m] (store : AuditStore m) (now : Timestamp)
    (signal : JobFinished) : m (Except MigrationError Completion) := do
  match precheck signal with
  | some verdict => return verdict
  | none =>
    let document := signal.job.request.auditDocument
    let record := AuditRecord.ofSnapshot signal.job now
    match ← store.load document with
    | .error e => return .error (loadFailed document e)
    | .ok none => return .error (noDocument document)
    | .ok (some existing) =>
      if existing.executed then return judge existing record
      match ← store.saveExecuted record with
      | .error e => return .error (saveFailed document e)
      | .ok true => return .ok .recorded
      | .ok false =>
        match ← store.load document with
        | .error e => return .error e
        | .ok none => return .error (noDocument document)
        | .ok (some current) => return judge current record

end SpaceMigration
