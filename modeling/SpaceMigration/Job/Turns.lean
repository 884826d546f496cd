import SpaceMigration.Job.Run
import SpaceMigration.Turn

/-!
# Spaces that take turns

A job migrates several spaces at once. A space that has asked the host for something waits, and
another one goes on; so the spaces take turns, and a turn of a space is one call to the host with
what follows from its result. At most `maxParallelSpaces` spaces are at work. The others have not
looked at the cancellation yet, and enter in the order of the answer as places become free.

Which of the spaces at work goes on depends on the host, and is given as a list of numbers
(`SpaceMigration.Turn`). When they are used up, no space waits any more, and the rest of the work is
done one space after another. Without numbers the run is that of `MigrationJob.run`.

## Scope

* A call is made when its turn comes, which is when it is answered. A call that waits while another
  space ends the run is not made at all.
* Every document takes three turns: one to look at the cancellation, one to load it and one to save
  it. A document that does not load has nothing to save, and its failure is written down in its last
  turn. That turn may come right after the one before it, as any turn of a space may, so nothing is
  lost by giving every document the same number of turns.
* Writing to the log and to the results does not wait.

## Main definitions

* `SpaceTask`, `Stage` — a space on its way, and what it does next
* `SpaceTask.step`, `SpaceTask.complete` — one turn of a space, and all that is left of it
* `migrateInTurns` — spaces that take turns
* `MigrationJob.runInTurns` — the run of a job whose spaces take turns
* `Export.fairTurns` — turns in which no space is kept waiting
-/

namespace SpaceMigration

/-! ### A space on its way -/

/-- How far a space has come with its documents: the document that it is at, those behind it, and
how many of those in front of it were migrated and how many failed. -/
structure Position where
  documentId : String
  rest : List String
  migrated : Nat
  failed : Nat

/-- What a space does next. -/
inductive Stage where
  /-- It looks at the cancellation for the first time. -/
  | toEnter
  /-- It lists its documents. -/
  | toList
  /-- It looks at the cancellation before a document. -/
  | toCheck (position : Position)
  | toLoad (position : Position)
  /-- It saves what it has loaded, or writes down that it could not load it. -/
  | toSave (position : Position) (loaded : Except MigrationError SourceDocument)

/-- A space of an answer on its way. -/
structure SpaceTask where
  space : SpaceSelection
  target : EntityReference
  stage : Stage

namespace SpaceTask

/-- A space at its beginning. -/
def entering (entry : SpaceSelection × EntityReference) : SpaceTask :=
  ⟨entry.1, entry.2, .toEnter⟩

/-- The entry of the answer. -/
def entry (task : SpaceTask) : SpaceSelection × EntityReference :=
  (task.space, task.target)

/-- The space at another stage. -/
def goOn (task : SpaceTask) (stage : Stage) : SpaceTask :=
  { task with stage }

end SpaceTask

section

variable {m : Type → Type} [Monad m] (host : Host m) (jobId : String)

/-! ### One turn -/

/-- Goes on to the next document of a space, or ends the space. -/
def nextDocument (space : SpaceSelection) (target : EntityReference) (migrated failed : Nat) :
    List String → RunM m (Option Stage)
  | [] => do
    finishSpace host space target migrated failed
    return none
  | documentId :: rest => return some (.toCheck ⟨documentId, rest, migrated, failed⟩)

/-- Writes down what became of a document, and returns whether it was migrated. -/
def settleDocument (spaceKey documentId : String) :
    Except MigrationError Tally → RunM m Bool
  | .ok tally => do
    RunM.note host .debug (documentMigrated spaceKey documentId tally)
    return true
  | .error e => do
    if e.isInfrastructure then throw e
    RunM.fail host (documentFailed spaceKey documentId) e
    return false

namespace Position

/-- The numbers of migrated and failed documents once the document is settled. -/
def count (position : Position) (migrated : Bool) : Nat × Nat :=
  if migrated then (position.migrated + 1, position.failed)
  else (position.migrated, position.failed + 1)

/-- Loads the document. An error is kept for later, unless it ends the run. -/
def load (position : Position) (spaceKey : String) :
    RunM m (Except MigrationError SourceDocument) := do
  let loaded ← RunM.attempt (host.load spaceKey position.documentId)
  if let .error e := loaded then
    if e.isInfrastructure then throw e
  return loaded

/-- Saves the document if it is loaded, and writes down what became of it. -/
def save (position : Position) (spaceKey : String) (target : EntityReference)
    (loaded : Except MigrationError SourceDocument) : RunM m (Nat × Nat) := do
  let outcome ← RunM.attempt
    (ExceptT.mk (pure loaded) >>= fun document => saveDocument host spaceKey target document).run
  return position.count (← settleDocument host spaceKey position.documentId outcome)

end Position

namespace SpaceTask

/-- One turn of a space. Returns what it does next, unless it has ended. -/
def step (task : SpaceTask) : RunM m (Option Stage) :=
  match task.stage with
  | .toEnter => do
    RunM.checkCancelled host jobId
    return some .toList
  | .toList => do
    match ← RunM.attempt (host.list task.space.key) with
    | .error e =>
      if e.isInfrastructure then throw e
      RunM.fail host (spaceFailed task.space) e
      return none
    | .ok documentIds => nextDocument host task.space task.target 0 0 documentIds
  | .toCheck position => do
    RunM.checkCancelled host jobId
    return some (.toLoad position)
  | .toLoad position => do
    return some (.toSave position (← position.load host task.space.key))
  | .toSave position loaded => do
    let (migrated, failed) ← position.save host task.space.key task.target loaded
    nextDocument host task.space task.target migrated failed position.rest

/-! ### Without waiting -/

/-- Migrates the documents that are left of a space, and ends the space. -/
def completeDocuments (task : SpaceTask) (migrated failed : Nat) (documentIds : List String) :
    RunM m Unit := do
  let counts ← migrateDocuments host jobId task.space.key task.target documentIds
  finishSpace host task.space task.target (migrated + counts.1) (failed + counts.2)

/-- All that is left of a space, without waiting. -/
def complete (task : SpaceTask) : RunM m Unit :=
  match task.stage with
  | .toEnter => migrateSpace host jobId task.space task.target
  | .toList => migrateListed host jobId task.space task.target
  | .toCheck position =>
    task.completeDocuments host jobId position.migrated position.failed
      (position.documentId :: position.rest)
  | .toLoad position => do
    let loaded ← position.load host task.space.key
    let (migrated, failed) ← position.save host task.space.key task.target loaded
    task.completeDocuments host jobId migrated failed position.rest
  | .toSave position loaded => do
    let (migrated, failed) ← position.save host task.space.key task.target loaded
    task.completeDocuments host jobId migrated failed position.rest

end SpaceTask

/-- Completes spaces, one after another. -/
def completeSpaces : List SpaceTask → RunM m Unit
  | [] => return
  | task :: rest => do
    task.complete host jobId
    completeSpaces rest

/-! ### All turns -/

/-- Migrates spaces that take turns, with room for some of them at once. -/
def migrateInTurns (room : Nat) : List Nat → List SpaceTask → RunM m Unit
  | [], tasks => completeSpaces host jobId tasks
  | number :: turns, tasks =>
    match Turn.of? room (number :: turns) tasks with
    | none => return
    | some turn => do
      let next ← turn.task.step host jobId
      migrateInTurns room turns (turn.leave (next.map turn.task.goOn))

end

/-! ### The whole run -/

/-- Turns in which the space goes on that has waited longest, enough of them for all documents of
the spaces with the keys. -/
def Export.fairTurns (source : Export) (keys : List String) : List Nat :=
  keys.flatMap fun key => List.replicate (2 + 3 * ((source.list key).toOption.getD []).length) 0

namespace MigrationJob

variable {m : Type → Type} [Monad m]

/-- The steps of a run whose spaces take turns. -/
def executeInTurns (job : MigrationJob) (turns : List Nat) (host : Host m) : RunM m Unit := do
  let answer := job.effectiveAnswer
  RunM.note host .info (started answer.entries.length job.request.targetRoot)
  migrateInTurns host job.id job.maxParallelSpaces turns (answer.entries.map .entering)

/-- Runs the job to its end. The spaces take turns. -/
def runInTurns (job : MigrationJob) (turns : List Nat) (host : Host m) : m JobSnapshot :=
  job.runWith host (job.executeInTurns turns host)

/-- Fair turns for the spaces that the job has in an export. -/
def fairTurns (job : MigrationJob) (source : Export) : List Nat :=
  source.fairTurns job.effectiveAnswer.keys

end MigrationJob

end SpaceMigration
