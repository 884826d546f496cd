import SpaceMigration.Job.Snapshot

/-!
# Audit records

The durable record of one migration run, held by its audit document. It waits unexecuted for its
job, and is written once, complete, when the job has ended.
-/

namespace SpaceMigration

/-- How the audited job ended. -/
inductive JobOutcome where
  | success
  | failure
deriving DecidableEq, Repr

namespace JobOutcome

/-- The word for an outcome. -/
def name : JobOutcome → String
  | success => "success"
  | failure => "failure"

/-- The outcome with the given word. -/
def ofName? (name : String) : Option JobOutcome :=
  if name = "success" then some success
  else if name = "failure" then some failure
  else none

theorem ofName?_name (outcome : JobOutcome) : ofName? outcome.name = some outcome := by
  cases outcome <;> rfl

/-- The outcome of a job that ended in the given state. -/
def ofState (state : JobState) : JobOutcome :=
  if state = .finishedSuccess then success else failure

end JobOutcome

/-- The record of one run in its audit document. -/
structure AuditRecord where
  document : EntityReference
  /-- Set once the finished job has been recorded. -/
  executed : Bool
  jobId : Option String
  outcome : Option JobOutcome
  /-- The targets of the migrated spaces. -/
  migratedSpaces : List EntityReference
  /-- The log of the job as JSON text. -/
  logText : String
  executedAt : Option Timestamp
deriving DecidableEq

namespace AuditRecord

/-- The record that waits for its job. -/
def unexecuted (document : EntityReference) : AuditRecord :=
  ⟨document, false, none, none, [], "[]", none⟩

/-- The record of a job that has ended. -/
def ofSnapshot (job : JobSnapshot) (now : Timestamp) : AuditRecord where
  document := job.request.auditDocument
  executed := true
  jobId := some job.id
  outcome := some (.ofState job.state)
  migratedSpaces := job.migratedSpaces
  logText := job.logText
  executedAt := some now

/-- Whether two records describe the same run; when they were written does not matter. -/
def sameContent (a b : AuditRecord) : Bool :=
  { a with executedAt := none } = { b with executedAt := none }

/-- A record is written with all its parts. -/
def toJson (r : AuditRecord) : Json.Value :=
  .record [("document", r.document.toJson), ("executed", .bool r.executed),
    ("job_id", .text? r.jobId), ("outcome", .text? (r.outcome.map JobOutcome.name)),
    ("migrated_spaces", .array (r.migratedSpaces.map EntityReference.toJson)),
    ("logs_json", .text r.logText),
    ("executed_at", (r.executedAt.map Timestamp.toJson).getD .null)]

/-- Job, outcome and time of a record are optional. -/
def ofJson? (v : Json.Value) : Option AuditRecord := do
  let fields ← v.fields? ["document", "executed", "job_id", "outcome", "migrated_spaces",
    "logs_json", "executed_at"]
  let document ← fields.required "document" EntityReference.ofJson?
  let executed ← fields.required "executed" (·.asBool)
  let jobId ← fields.optional "job_id" (·.asText)
  let outcome ← fields.optional "outcome" (·.asName.bind JobOutcome.ofName?)
  let migratedSpaces ← fields.required "migrated_spaces" (·.asList EntityReference.ofJson?)
  let logText ← fields.required "logs_json" (·.asText)
  let executedAt ← fields.optional "executed_at" Timestamp.ofJson?
  return ⟨document, executed, jobId, outcome, migratedSpaces, logText, executedAt⟩

end AuditRecord

end SpaceMigration
