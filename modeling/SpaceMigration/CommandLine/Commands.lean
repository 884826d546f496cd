import SpaceMigration.CommandLine.Arguments
import SpaceMigration.CommandLine.Session
import SpaceMigration.Config
import SpaceMigration.Export
import SpaceMigration.Job.Turns
import SpaceMigration.Signal

/-!
# The commands

* `init-audit` creates an audit record that waits for its run, unless there is one.
* `run` migrates spaces of an export, and records the run in its audit document. Before anything is
  written it checks that the record is there and waits.
* `show-audit` prints an audit record.

## Scope

The spaces of a run take turns fairly: a space that has been answered stands behind the others at
work. A database may answer in another order, and then the documents of different spaces, and the
lines about them, come in another order as well.
-/

namespace SpaceMigration.CommandLine

variable {m : Type → Type} [Monad m]

/-! ### Audit documents -/

/-- Creates an audit record, unless there is one. -/
def createAudit (access : Access) (document : EntityReference) : SessionM m Unit := do
  let created ← SessionM.attempt (Session.onStore (access.write (Store.createRecord document)))
  let record ← SessionM.require created
  if record.executed then
    SessionM.say s!"Audit document {record.document.path} was already executed"
  else
    SessionM.say s!"✓ Audit document {record.document.path} ready"

/-- Prints an audit record. -/
def printAudit (document : EntityReference) : SessionM m Unit := do
  match ← SessionM.loadRecord document with
  | some record => SessionM.say record.toJson.pretty
  | none => SessionM.fail s!"audit document {document.path} does not exist"

/-! ### Selecting spaces -/

/-- The selection written as `KEY` or `KEY:Name`, without the white space around both. A name that
is left out or blank is the one in the export, and failing that the key. A blank key selects
nothing. -/
def selection? (source : Export) (raw : String) : Option SpaceSelection :=
  let (key, name) := (Text.cutAt ':' raw.toList).getD (raw.toList, [])
  let key := String.ofList (Text.trim key)
  let name := String.ofList (Text.trim name)
  if key.isEmpty then none
  else some ⟨key, if name.isEmpty then (source.spaceName? key).getD key else name⟩

/-- The selection of every space of an export, in key order. -/
def everySpace (source : Export) : List SpaceSelection :=
  source.spaceKeys.map fun key => ⟨key, (source.spaceName? key).getD key⟩

/-- The selections of a run, as they are written, or of every space when none is written. -/
def selectSpaces (source : Export) (written : List String) : SessionM m (List SpaceSelection) :=
  if written.isEmpty then pure (everySpace source)
  else written.mapM fun raw =>
    match selection? source raw with
    | some selection => pure selection
    | none => SessionM.fail s!"empty space key in '{raw}'"

/-! ### Running -/

/-- Checks that the record of an audit document is there and waits for its run. -/
def requireWaiting (document : EntityReference) : SessionM m Unit := do
  match ← SessionM.loadRecord document with
  | none =>
    SessionM.fail s!"audit document {document.path} does not exist, create it with init-audit"
  | some record =>
    if record.executed then
      SessionM.fail s!"audit document {document.path} was already executed"

/-- The line about a migrated space. -/
def resultLine (result : SpaceResult) : String :=
  s!"{result.space.key} -> {result.target.path}: " ++
    s!"{result.documentsMigrated} migrated, {result.documentsFailed} failed"

/-- The line about a job that has ended. -/
def jobLine (job : JobSnapshot) : String :=
  s!"Job {job.id} {job.state.display} with {job.errorCount} errors"

/-- Runs a job into the store, with spaces that take turns fairly, and records its end. Returns the
end and the failures to record it. -/
def runJob (env : Environment m) (access : Access) (source : Export) (registry : Registry)
    (job : MigrationJob) : StateT Session m (JobSnapshot × List MigrationError) := do
  let clock : StateT Session m Timestamp := StateT.lift env.clock
  let finished ← job.runInTurns (job.fairTurns source)
    (.ofExport source registry clock (pure false) (Session.save access))
  let failures ← announce (Session.auditStore env access) clock finished
  return (finished, failures)

/-- Reports on a job that has ended, and fails unless it succeeded and is recorded. -/
def concludeRun (job : JobSnapshot) (failures : List MigrationError) : SessionM m Unit := do
  job.results.forM fun result => SessionM.say (resultLine result)
  SessionM.say (jobLine job)
  if let some failure := failures.head? then
    SessionM.fail s!"migration job {job.id} was not recorded: {failure.message}"
  let document := job.request.auditDocument
  let record ← SessionM.loadRecord document
  if !record.any (·.executed) then
    SessionM.fail s!"audit document {document.path} was not marked executed by job {job.id}"
  if !job.succeeded then
    throw .silent

/-- Migrates spaces of an export. -/
def migrate (env : Environment m) (access : Access) (config : Config) (options : RunOptions) :
    SessionM m Unit := do
  let extensionIds ← SessionM.require config.extensionIds
  let source ← SessionM.require (Export.ofFile (← SessionM.ask (env.read options.exportPath)))
  let spaces ← selectSpaces source options.spaces
  if spaces.isEmpty then
    SessionM.fail s!"export {options.exportPath} contains no spaces"
  let document : EntityReference := ⟨options.auditDocument⟩
  requireWaiting document
  let request : MigrationRequest := {
    auditDocument := document
    targetRoot := ⟨options.targetRoot.getD config.migration.targetRoot⟩
    spaces := spaces }
  let job := (MigrationJob.new (← SessionM.ask env.newJobId) request).withParallelism
    config.migration.maxParallelSpaces
  let registry := Registry.ofExtensions extensionIds config.migration.tasklistMarker
  let (finished, failures) ← SessionM.attempt (runJob env access source registry job)
  concludeRun finished failures

/-- Carries out a command. -/
def Command.perform (env : Environment m) (access : Access) (config : Config) :
    Command → SessionM m Unit
  | .initAudit document => createAudit access ⟨document⟩
  | .run options => migrate env access config options
  | .showAudit document => printAudit ⟨document⟩

end SpaceMigration.CommandLine
