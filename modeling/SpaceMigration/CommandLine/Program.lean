import SpaceMigration.CommandLine.Commands
import SpaceMigration.Store.Image

/-!
# The program

One run of the program reads its arguments, then the configuration, opens the store, carries out the
command, and keeps the store. The first of these that fails ends the run. The store is kept whether
or not the command succeeds: what a failing command has written stays.

The exit code is 0 for success and help, 1 for a failure and 2 for a misuse.
-/

namespace SpaceMigration.CommandLine

/-- What a run of the program leaves behind. -/
structure Exit where
  code : Nat
  output : String
  errors : String
deriving DecidableEq, Repr

namespace Exit

/-- The exit of a command line that is not carried out. -/
def ofRefusal : Refusal → Exit
  | .help topic => ⟨0, topic.text, ""⟩
  | .misuse fault =>
    ⟨2, "", fault.message ++ "\n\n" ++ Topic.program.usage ++
      "\nFor more information, try '--help'.\n"⟩

/-- The exit after the given lines. -/
def ofResult (output : List String) (result : Except Failure Unit) : Exit :=
  let text := String.join (output.map (· ++ "\n"))
  match result with
  | .ok () => ⟨0, text, ""⟩
  | .error failure => ⟨1, text, failure.report⟩

end Exit

/-- The configuration in a file; the default one when there is no file. -/
def loadConfig (path : String) : FileContent → Except Failure Config
  | .missing => .ok .default
  | content => (Config.ofFile content).mapError (.inContext ("loading " ++ path))

variable {m : Type → Type} [Monad m]

namespace Environment

/-- Opens the store at a location. A new store is created, unless it is opened for reading only. -/
def openStore (env : Environment m) (location : StoreLocation) :
    m (Except MigrationError Store) := do
  let unusable (reason : String) : Except MigrationError Store := .error ⟨.database, reason⟩
  let created : Except MigrationError Store := match location.access with
    | .readWrite => .ok .empty
    | .readOnly => unusable "there is no database to read"
  match location.place with
  | .memory => return created
  | .file path =>
    match ← env.look path with
    | .directory => return unusable "the path leads to a directory"
    | .file bytes => if bytes.isEmpty then return created else return Store.ofImage bytes
    | .nothing =>
      match created with
      | .error e => return .error e
      | .ok store =>
        if ← env.write path store.image then return .ok store
        else return unusable "the file cannot be created"

/-- Keeps a store at its location, if there is something to keep. -/
def keepStore (env : Environment m) (location : StoreLocation) (store : Store) :
    m (Except MigrationError Unit) := do
  match location.place, location.access with
  | .file path, .readWrite =>
    if ← env.write path store.image then return .ok ()
    else return .error ⟨.database, "the file cannot be written"⟩
  | _, _ => return .ok ()

end Environment

/-- Carries out a command on a store. Returns the store, the lines printed, and how it ended. -/
def Command.runOn (env : Environment m) (access : Access) (config : Config) (command : Command)
    (store : Store) : m (Except Failure Unit × Session) :=
  (command.perform env access config).run.run ⟨store, []⟩

/-- Carries out what a command line asks for. -/
def Invocation.run (env : Environment m) (invocation : Invocation) : m Exit := do
  match loadConfig invocation.configPath (← env.read invocation.configPath) with
  | .error failure => return .ofResult [] (.error failure)
  | .ok config =>
    match StoreLocation.parse (invocation.databaseUrl.getD config.databaseUrl) with
    | .error e => return .ofResult [] (.error (.ofError e))
    | .ok location =>
      match ← env.openStore location with
      | .error e => return .ofResult [] (.error (.ofError e))
      | .ok store =>
        let (result, session) ← invocation.command.runOn env location.access config store
        let kept ← env.keepStore location session.store
        return .ofResult session.output (result.bind fun _ => kept.mapError Failure.ofError)

/-- One run of the program with the given arguments. -/
def runProgram (env : Environment m) (arguments : List String) : m Exit :=
  match Invocation.parse arguments with
  | .error refusal => pure (.ofRefusal refusal)
  | .ok invocation => invocation.run env

end SpaceMigration.CommandLine
