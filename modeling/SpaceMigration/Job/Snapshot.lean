import SpaceMigration.Job.Log
import SpaceMigration.Job.State
import SpaceMigration.Selection

/-!
# Requests and snapshots

A request names what a job migrates and where it is audited. A snapshot is the frozen end of a job:
the request, the answer it used, the results of the spaces it completed and its log.
-/

namespace SpaceMigration

/-- The type of migration jobs among the jobs that announce their end. -/
def migrationJobType : String := "wiki.migration"

/-- What a job is asked to do. -/
structure MigrationRequest where
  /-- The document that holds the audit record of the run. -/
  auditDocument : EntityReference
  /-- The root of the migrated spaces. -/
  targetRoot : EntityReference
  /-- The selected source spaces. -/
  spaces : List SpaceSelection
deriving DecidableEq, Repr

/-- The result of a space that was processed to its end. -/
structure SpaceResult where
  space : SpaceSelection
  target : EntityReference
  documentsMigrated : Nat
  documentsFailed : Nat
deriving DecidableEq, Repr

/-- The frozen state of a job that has ended. -/
structure JobSnapshot where
  id : String
  jobType : String
  request : MigrationRequest
  answer : SpaceAnswer
  state : JobState
  results : List SpaceResult
  log : List LogEvent
  startedAt : Timestamp
  finishedAt : Timestamp
deriving DecidableEq

namespace JobSnapshot

/-- The targets of the answered spaces that have a result, in the order of the answer. -/
def migratedSpaces (job : JobSnapshot) : List EntityReference :=
  (job.answer.entries.filter fun entry =>
    job.results.any fun result => result.space.key == entry.1.key).map (·.2)

/-- The log as JSON text. -/
def logText (job : JobSnapshot) : String :=
  LogEvent.listText job.log

/-- Whether the job reached its end. -/
def succeeded (job : JobSnapshot) : Bool :=
  job.state == .finishedSuccess

/-- The number of error events. -/
def errorCount (job : JobSnapshot) : Nat :=
  job.log.countP fun event => event.level == .error

end JobSnapshot

/-! ### Layout -/

/-- A request is written with all its parts. -/
def MigrationRequest.toJson (r : MigrationRequest) : Json.Value :=
  .record [("audit_document", r.auditDocument.toJson), ("target_root", r.targetRoot.toJson),
    ("spaces", .array (r.spaces.map SpaceSelection.toJson))]

/-- All parts of a request are required. -/
def MigrationRequest.ofJson? (v : Json.Value) : Option MigrationRequest := do
  let fields ← v.fields? ["audit_document", "target_root", "spaces"]
  let auditDocument ← fields.required "audit_document" EntityReference.ofJson?
  let targetRoot ← fields.required "target_root" EntityReference.ofJson?
  let spaces ← fields.required "spaces" (·.asList SpaceSelection.ofJson?)
  return ⟨auditDocument, targetRoot, spaces⟩

/-- A result is written with all its parts. -/
def SpaceResult.toJson (r : SpaceResult) : Json.Value :=
  .record [("space", r.space.toJson), ("target", r.target.toJson),
    ("documents_migrated", .natural r.documentsMigrated),
    ("documents_failed", .natural r.documentsFailed)]

/-- All parts of a result are required; its numbers are counters. -/
def SpaceResult.ofJson? (v : Json.Value) : Option SpaceResult := do
  let fields ← v.fields? ["space", "target", "documents_migrated", "documents_failed"]
  let space ← fields.required "space" SpaceSelection.ofJson?
  let target ← fields.required "target" EntityReference.ofJson?
  let migrated ← fields.required "documents_migrated" (·.asCounter)
  let failed ← fields.required "documents_failed" (·.asCounter)
  return ⟨space, target, migrated, failed⟩

/-- A snapshot is written with all its parts. -/
def JobSnapshot.toJson (job : JobSnapshot) : Json.Value :=
  .record [("id", .text job.id), ("job_type", .text job.jobType),
    ("request", job.request.toJson), ("answer", job.answer.toJson),
    ("state", .text job.state.name), ("results", .array (job.results.map SpaceResult.toJson)),
    ("log", .array (job.log.map LogEvent.toJson)), ("started_at", job.startedAt.toJson),
    ("finished_at", job.finishedAt.toJson)]

/-- All parts of a snapshot are required. -/
def JobSnapshot.ofJson? (v : Json.Value) : Option JobSnapshot := do
  let fields ← v.fields? ["id", "job_type", "request", "answer", "state", "results", "log",
    "started_at", "finished_at"]
  let id ← fields.required "id" (·.asText)
  let jobType ← fields.required "job_type" (·.asText)
  let request ← fields.required "request" MigrationRequest.ofJson?
  let answer ← fields.required "answer" SpaceAnswer.ofJson?
  let state ← fields.required "state" (·.asName.bind JobState.ofName?)
  let results ← fields.required "results" (·.asList SpaceResult.ofJson?)
  let log ← fields.required "log" (·.asList LogEvent.ofJson?)
  let startedAt ← fields.required "started_at" Timestamp.ofJson?
  let finishedAt ← fields.required "finished_at" Timestamp.ofJson?
  return ⟨id, jobType, request, answer, state, results, log, startedAt, finishedAt⟩

end SpaceMigration
