import SpaceMigration.Job.Host
import SpaceMigration.Job.Snapshot

/-!
# Running a migration job

A job migrates the answered spaces, and the documents of a space one after another.

* An error of one document, or of listing one space, is logged and the run goes on, unless it is an
  infrastructure error: that ends the run.
* Before each space and before each document the run looks whether it has been cancelled, and ends
  if so.
* A run that ends early is a failure; a run that comes to its end is a success, whatever was
  logged.

The end of a run is a `JobSnapshot`: `MigrationJob.run` always returns one.

## Scope

A job has room for several spaces at once (`maxParallelSpaces`). While one of them waits for an
answer of the host, another goes on. `MigrationJob.run` is the run over a host that answers every
call at once: no space ever waits, and they are migrated one after another, whatever the room. The
runs in which spaces wait are in `SpaceMigration.Job.Turns`; they have the same beginning and the
same end (`MigrationJob.runWith`).

What a run reports to its operator while it goes on is left out, next to the log that it keeps.

## Main definitions

* `MigrationJob`, `MigrationJob.answerQuestion` — a job before it runs
* `convertBlocks`, `migrateDocument` — one document
* `migrateDocuments`, `migrateSpace`, `migrateSpaces` — the loops, by recursion on what is left
* `MigrationJob.runWith` — a run whose spaces are migrated by given steps
* `MigrationJob.run` — the run that migrates one space after another
-/

namespace SpaceMigration

/-- A job that has not run yet. -/
structure MigrationJob where
  id : String
  request : MigrationRequest
  /-- The accepted answer, if there is one. -/
  answer : Option SpaceAnswer
  /-- How many spaces are migrated at once, at most. -/
  maxParallelSpaces : Nat
deriving DecidableEq, Repr

namespace MigrationJob

/-- A new job, whose question is still open. -/
def new (id : String) (request : MigrationRequest) : MigrationJob :=
  ⟨id, request, none, 4⟩

/-- The job with room for that many spaces at once, and for one at least. -/
def withParallelism (job : MigrationJob) (spaces : Nat) : MigrationJob :=
  { job with maxParallelSpaces := max spaces 1 }

/-- The state of a job that has not run yet. -/
def state (_ : MigrationJob) : JobState :=
  .created

/-- The question over the selected spaces of the job. -/
def question (job : MigrationJob) : SpaceQuestion :=
  .new job.request.spaces

/-- Answers the question of the job, once, with an answer that the question accepts. -/
def answerQuestion (job : MigrationJob) (answer : SpaceAnswer) :
    Except MigrationError MigrationJob :=
  if job.answer.isSome then .error ⟨.invalidState, "space question already answered"⟩
  else (job.question.check answer).map fun _ => { job with answer := some answer }

/-- The answer that a run uses: the accepted one, or the default under the target root. -/
def effectiveAnswer (job : MigrationJob) : SpaceAnswer :=
  job.answer.getD (job.question.defaultAnswer job.request.targetRoot)

end MigrationJob

/-! ### The state of a run -/

/-- What a run has produced so far. -/
structure Progress where
  log : JobLog
  /-- The results of the completed spaces, in order. -/
  results : List SpaceResult

/-- A step of a run: it changes the progress, and may end the run with an error. -/
abbrev RunM (m : Type → Type) := ExceptT MigrationError (StateT Progress m)

namespace RunM

variable {m : Type → Type} [Monad m]

/-- A call to the host, with its error as a value. -/
def attempt {α : Type} (call : m α) : RunM m α :=
  ExceptT.lift (StateT.lift call)

/-- Appends to the log. -/
def logged (host : Host m) (write : JobLog → Timestamp → JobLog) : RunM m Unit := do
  let now ← attempt host.clock
  modify fun progress => { progress with log := write progress.log now }

/-- Appends an event without a cause. -/
def note (host : Host m) (level : LogLevel) (message : String) : RunM m Unit :=
  logged host fun log now => log.note now level message

/-- Appends an error event. -/
def fail (host : Host m) (message : String) (cause : MigrationError) : RunM m Unit :=
  logged host fun log now => log.fail now message cause

/-- Ends the run if the job has been cancelled. -/
def checkCancelled (host : Host m) (jobId : String) : RunM m Unit := do
  if ← attempt host.isCancelled then throw ⟨.cancelled, "job " ++ jobId⟩

end RunM

/-! ### One document -/

/-- How many macros of a document were replaced and how many were kept. -/
structure Tally where
  replaced : Nat
  kept : Nat
deriving DecidableEq, Repr

/-- Converts the content of a document, block after block, up to the first failing macro. -/
def convertBlocks {m : Type → Type} [Monad m] (host : Host m) :
    List ContentBlock → ExceptT MigrationError m (String × Tally)
  | [] => return ("", ⟨0, 0⟩)
  | .text content :: rest => do
    let (tail, tally) ← convertBlocks host rest
    return (content ++ tail, tally)
  | .call occurrence :: rest => do
    match ← ExceptT.mk (host.convert occurrence) with
    | .replaced replacement =>
      let (tail, tally) ← convertBlocks host rest
      return (replacement.toCall ++ tail, { tally with replaced := tally.replaced + 1 })
    | .unchanged =>
      let (tail, tally) ← convertBlocks host rest
      return (occurrence.toCall ++ tail, { tally with kept := tally.kept + 1 })

/-- Converts and saves a document that is loaded, under the target of its space. -/
def saveDocument {m : Type → Type} [Monad m] (host : Host m) (spaceKey : String)
    (target : EntityReference) (document : SourceDocument) : ExceptT MigrationError m Tally := do
  let (content, tally) ← convertBlocks host document.content
  ExceptT.mk <| host.save {
    reference := target.child document.id
    title := document.title
    content := content
    metadata := document.metadata? spaceKey }
  return tally

/-- Loads, converts and saves one document of a space under the target of the space. -/
def migrateDocument {m : Type → Type} [Monad m] (host : Host m) (spaceKey : String)
    (target : EntityReference) (documentId : String) : ExceptT MigrationError m Tally := do
  let document ← ExceptT.mk (host.load spaceKey documentId)
  saveDocument host spaceKey target document

/-! ### The words of the log -/

/-- The event of a run that starts. -/
def started (spaces : Nat) (root : EntityReference) : String :=
  s!"Starting migration of {spaces} spaces into {root.path}"

/-- The event of a migrated document. -/
def documentMigrated (spaceKey documentId : String) (tally : Tally) : String :=
  s!"Migrated document {spaceKey}.{documentId} " ++
    s!"({tally.replaced} macros rewritten, {tally.kept} kept)"

/-- The event of a document that is not migrated, in front of its cause. -/
def documentFailed (spaceKey documentId : String) : String :=
  s!"Failed to migrate document {spaceKey}.{documentId}"

/-- The event of a space that comes to its end. -/
def spaceMigrated (space : SpaceSelection) (target : EntityReference)
    (migrated failed : Nat) : String :=
  s!"Migrated space {space.key} ({space.name}) into {target.path}: " ++
    s!"{migrated} documents, {failed} failed"

/-- The event of a space that cannot be listed, in front of its cause. -/
def spaceFailed (space : SpaceSelection) : String :=
  s!"Failed to read space {space.key}"

/-! ### The loops -/

section

variable {m : Type → Type} [Monad m] (host : Host m) (jobId : String)

/-- Migrates the listed documents of a space, and returns how many were migrated and how many
failed. -/
def migrateDocuments (spaceKey : String) (target : EntityReference) :
    List String → RunM m (Nat × Nat)
  | [] => return (0, 0)
  | documentId :: rest => do
    RunM.checkCancelled host jobId
    match ← RunM.attempt (migrateDocument host spaceKey target documentId).run with
    | .ok tally =>
      RunM.note host .debug (documentMigrated spaceKey documentId tally)
      let (migrated, failed) ← migrateDocuments spaceKey target rest
      return (migrated + 1, failed)
    | .error e =>
      if e.isInfrastructure then throw e
      RunM.fail host (documentFailed spaceKey documentId) e
      let (migrated, failed) ← migrateDocuments spaceKey target rest
      return (migrated, failed + 1)

/-- Writes down the result of a space that comes to its end. -/
def finishSpace (space : SpaceSelection) (target : EntityReference) (migrated failed : Nat) :
    RunM m Unit := do
  modify fun progress =>
    { progress with results := progress.results ++ [⟨space, target, migrated, failed⟩] }
  RunM.note host .info (spaceMigrated space target migrated failed)

/-- Lists and migrates the documents of a space. A space that cannot be listed has no result. -/
def migrateListed (space : SpaceSelection) (target : EntityReference) : RunM m Unit := do
  match ← RunM.attempt (host.list space.key) with
  | .error e =>
    if e.isInfrastructure then throw e
    RunM.fail host (spaceFailed space) e
  | .ok documentIds =>
    let (migrated, failed) ← migrateDocuments host jobId space.key target documentIds
    finishSpace host space target migrated failed

/-- Migrates one space. -/
def migrateSpace (space : SpaceSelection) (target : EntityReference) : RunM m Unit := do
  RunM.checkCancelled host jobId
  migrateListed host jobId space target

/-- Migrates the spaces of an answer, in order. -/
def migrateSpaces : List (SpaceSelection × EntityReference) → RunM m Unit
  | [] => return
  | entry :: rest => do
    migrateSpace host jobId entry.1 entry.2
    migrateSpaces rest

end

/-! ### The whole run -/

namespace MigrationJob

variable {m : Type → Type} [Monad m]

/-- The steps of a run, up to its end or the error that ends it. The answer counts as chosen once
the first look at the cancellation is passed. -/
def execute (job : MigrationJob) (host : Host m) : RunM m Unit := do
  let answer := job.effectiveAnswer
  RunM.note host .info (started answer.entries.length job.request.targetRoot)
  migrateSpaces host job.id answer.entries

/-- The state in which a run ends. -/
def finalState : Except MigrationError Unit → JobState
  | .ok () => .finishedSuccess
  | .error _ => .finishedFailure

/-- The last event of the log of a run. -/
def conclude (host : Host m) : Except MigrationError Unit → RunM m Unit
  | .ok () => RunM.note host .info "Migration finished"
  | .error e =>
    RunM.fail host (if e.kind = .cancelled then "Migration cancelled" else "Migration aborted") e

/-- Runs the job to its end, with the given steps once the first look at the cancellation is
passed. -/
def runWith (job : MigrationJob) (host : Host m) (steps : RunM m Unit) : m JobSnapshot := do
  let startedAt ← host.clock
  let ((cancelled : Except MigrationError Unit), progress) ←
    (RunM.checkCancelled host job.id).run.run ⟨.empty, []⟩
  let (outcome, progress) ← match cancelled with
    | .ok () => steps.run.run progress
    | .error e => pure (.error e, progress)
  let (_, progress) ← (conclude host outcome).run.run progress
  let finishedAt ← host.clock
  return {
    id := job.id
    jobType := migrationJobType
    request := job.request
    answer := match cancelled with
      | .ok () => job.effectiveAnswer
      | .error _ => job.answer.getD .empty
    state := finalState outcome
    results := progress.results
    log := progress.log.events
    startedAt := startedAt
    finishedAt := finishedAt }

/-- Runs the job to its end, one space after another. -/
def run (job : MigrationJob) (host : Host m) : m JobSnapshot :=
  job.runWith host (job.execute host)

end MigrationJob

end SpaceMigration
