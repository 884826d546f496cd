import SpaceMigration.Audit.Completion
import SpaceMigration.Document
import SpaceMigration.File
import SpaceMigration.Store.Audit
import SpaceMigration.Store.Documents
import SpaceMigration.Store.Location

/-!
# Sessions

A session is one command at work on one store: it holds the store and the lines printed so far.
What a command asks of the world beyond its store is an `Environment m`; as with the hosts of jobs,
an environment over `StateM` simulates a world as a value, and one over `IO` reaches the real one.

A command fails with a `Failure`. What it has printed and stored by then stays printed and stored.
-/

namespace SpaceMigration.CommandLine

/-- What commands ask of the world beyond their store. -/
structure Environment (m : Type → Type) where
  /-- What a path leads to. -/
  look : (path : String) → m PathContent
  /-- Writes a file whole, and returns whether that was possible. -/
  write : (path : String) → ByteArray → m Bool
  /-- The current time. -/
  clock : m Timestamp
  /-- An identifier that no job has. -/
  newJobId : m String

/-- What a path says to a reader of text. -/
def Environment.read {m : Type → Type} [Monad m] (env : Environment m) (path : String) :
    m FileContent :=
  FileContent.ofPath <$> env.look path

/-! ### Failures -/

/-- The end of a command that did not succeed. -/
inductive Failure where
  /-- What was printed speaks for itself. -/
  | silent
  /-- A reason, perhaps with its cause. -/
  | because (reason : String) (cause : Option String)
deriving DecidableEq, Repr

namespace Failure

/-- A failure without a cause of its own. -/
def plain (reason : String) : Failure :=
  .because reason none

/-- The failure that is due to an error. -/
def ofError (e : MigrationError) : Failure :=
  .because e.message (e.trace.tail.head?)

/-- The failure of something that was attempted, due to an error. -/
def inContext (context : String) (e : MigrationError) : Failure :=
  .because context (some e.message)

/-- What is reported of a failure. The lines of a cause are indented. -/
def report : Failure → String
  | silent => ""
  | because reason none => "Error: " ++ reason ++ "\n"
  | because reason (some cause) =>
    "Error: " ++ reason ++ "\n\nCaused by:\n    " ++
      String.ofList (Text.replaceChar '\n' "\n    ".toList cause.toList) ++ "\n"

end Failure

/-! ### Sessions -/

/-- One command at work. -/
structure Session where
  store : Store
  /-- The lines printed so far. -/
  output : List String

/-- A step of a command: it changes its session, and may end the command with a failure. -/
abbrev SessionM (m : Type → Type) := ExceptT Failure (StateT Session m)

namespace Session

variable {m : Type → Type} [Monad m]

/-- A step on the store. -/
def onStore {α : Type} (step : Store → α × Store) : StateT Session m α := fun session =>
  let (a, store) := step session.store
  pure (a, { session with store })

/-- The store of a session as a place to record finished jobs. -/
def auditStore (env : Environment m) (access : Access) : AuditStore (StateT Session m) where
  load document := onStore fun store => (store.loadRecord document, store)
  saveExecuted record := do
    let now ← StateT.lift env.clock
    onStore (access.write (Store.saveExecuted now record))

/-- Saves a document in the store of a session. -/
def save (access : Access) (document : TargetDocument) :
    StateT Session m (Except MigrationError Unit) :=
  onStore (access.write fun store => (.ok (), store.saveDocument document))

end Session

namespace SessionM

variable {m : Type → Type} [Monad m]

/-- A step that cannot fail by itself. -/
def attempt {α : Type} (step : StateT Session m α) : SessionM m α :=
  ExceptT.lift step

/-- A call to the environment. -/
def ask {α : Type} (call : m α) : SessionM m α :=
  attempt (StateT.lift call)

/-- The value of a result; its error ends the command. -/
def require {α : Type} : Except MigrationError α → SessionM m α
  | .ok a => pure a
  | .error e => throw (.ofError e)

/-- Ends the command for the given reason. -/
def fail {α : Type} (reason : String) : SessionM m α :=
  throw (.plain reason)

/-- Prints a line. -/
def say (line : String) : SessionM m Unit :=
  modify fun session => { session with output := session.output ++ [line] }

/-- The record of an audit document, if it has a row. -/
def loadRecord (document : EntityReference) : SessionM m (Option AuditRecord) := do
  require ((← get).store.loadRecord document)

end SessionM

end SpaceMigration.CommandLine
