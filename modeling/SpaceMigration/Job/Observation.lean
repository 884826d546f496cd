import SpaceMigration.Job.Host

/-!
# Observing and disturbing the calls of a job

Two transformers of hosts.

* `Host.observed` keeps the list of the calls made, each with its result: the trace on which
  statements about runs are made.
* `Host.disturbed` inserts a script of faults in front of a host: a fault makes a call fail without
  reaching the host, or cancels the job while the call goes on.
-/

namespace SpaceMigration

/-- A call of a job to its host, with its result. -/
inductive Call where
  | check (cancelled : Bool)
  | list (spaceKey : String) (result : Except MigrationError (List String))
  | load (spaceKey documentId : String) (result : Except MigrationError SourceDocument)
  | convert (occurrence : Occurrence) (result : Except MigrationError Conversion)
  | save (document : TargetDocument) (result : Except MigrationError Unit)

/-- The document of a save. -/
def Call.savedDocument? : Call → Option TargetDocument
  | save document _ => some document
  | _ => none

section Observed

variable {m : Type → Type} [Monad m]

/-- A host call whose result is appended to the trace as a call. -/
def traced {α : Type} (call : α → Call) (action : m α) : StateT (List Call) m α := do
  let result ← StateT.lift action
  modify (· ++ [call result])
  return result

/-- The host with a trace of its calls. Reading the clock is not a call. -/
def Host.observed (host : Host m) : Host (StateT (List Call) m) where
  clock := StateT.lift host.clock
  isCancelled := traced .check host.isCancelled
  list spaceKey := traced (.list spaceKey) (host.list spaceKey)
  load spaceKey documentId := traced (.load spaceKey documentId) (host.load spaceKey documentId)
  convert o := traced (.convert o) (host.convert o)
  save d := traced (.save d) (host.save d)

end Observed

/-! ### Faults -/

/-- The calls that a fault can hit. -/
inductive FaultSite where
  | list
  | load
  | convert
  | save
deriving DecidableEq, Repr

/-- What a fault does. -/
inductive FaultEffect where
  /-- The call fails without reaching the host. -/
  | fail (e : MigrationError)
  /-- The job is cancelled, and the call goes on. -/
  | cancel
deriving DecidableEq, Repr

/-- A fault hits the calls at its site whose subject it names: a space key, a space key and a
document identifier joined by `/`, a macro identifier, or a target reference. -/
structure Fault where
  site : FaultSite
  subject : String
  effect : FaultEffect
deriving DecidableEq, Repr

section Disturbed

variable {m : Type → Type} [Monad m]

/-- A call behind a script of faults. The state says whether a fault has cancelled the job. -/
def guarded {α : Type} (site : FaultSite) (subject : String)
    (call : m (Except MigrationError α)) :
    List Fault → StateT Bool m (Except MigrationError α)
  | [] => StateT.lift call
  | fault :: rest =>
    if fault.site = site ∧ fault.subject = subject then
      match fault.effect with
      | .fail e => return .error e
      | .cancel => do
        set true
        guarded site subject call rest
    else guarded site subject call rest

/-- The host behind a script of faults, which are considered in order. -/
def Host.disturbed (faults : List Fault) (host : Host m) : Host (StateT Bool m) where
  clock := StateT.lift host.clock
  isCancelled := do
    let cancelled ← StateT.lift host.isCancelled
    return (← get) || cancelled
  list spaceKey := guarded .list spaceKey (host.list spaceKey) faults
  load spaceKey documentId :=
    guarded .load (spaceKey ++ "/" ++ documentId) (host.load spaceKey documentId) faults
  convert o := guarded .convert o.id (host.convert o) faults
  save d := guarded .save d.reference.path (host.save d) faults

end Disturbed

end SpaceMigration
