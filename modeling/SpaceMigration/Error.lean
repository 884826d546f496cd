/-!
# Errors

An error is a kind and a detail. The kind decides the label in front of the detail, whether the
error stops a running job (`MigrationError.isInfrastructure`), and whether the detail is an
underlying cause that a trace shows as a frame of its own.

## Scope

The causes below the detail are left out, so a trace has one frame or two. A database error can have
a third one, in which the database library names a cause of its own.
-/

namespace SpaceMigration

/-- What went wrong, in kind. -/
inductive ErrorKind where
  /-- The configuration cannot be used. -/
  | config
  /-- A piece of content cannot be converted. -/
  | conversion
  /-- A service that the job depends on failed. -/
  | infrastructure
  /-- A stored record cannot be read or written. -/
  | persistence
  /-- A space, document or record does not exist. -/
  | notFound
  /-- An audit record already holds another run. -/
  | alreadyExecuted
  /-- An operation does not fit the state of its job. -/
  | invalidState
  /-- The job was asked to stop. -/
  | cancelled
  /-- A file cannot be read. -/
  | io
  /-- The database failed. -/
  | database
  /-- A text is not the expected JSON. -/
  | json
deriving DecidableEq, Repr

/-- The words in front of the detail. -/
def ErrorKind.label : ErrorKind → String
  | config => "Configuration error"
  | conversion => "Conversion error"
  | infrastructure => "Infrastructure error"
  | persistence => "Persistence error"
  | notFound => "Resource not found"
  | alreadyExecuted => "Audit record already executed"
  | invalidState => "Invalid job state"
  | cancelled => "Cancellation requested"
  | io => "IO error"
  | database => "Database error"
  | json => "JSON error"

/-- Whether the detail of such an error is an underlying cause. -/
def ErrorKind.hasCause : ErrorKind → Bool
  | io | database | json => true
  | _ => false

/-- An error of the library. -/
structure MigrationError where
  kind : ErrorKind
  detail : String
deriving DecidableEq, Repr

namespace MigrationError

/-- The text of an error. -/
def message (e : MigrationError) : String :=
  e.kind.label ++ ": " ++ e.detail

/-- Whether the error stops a running job instead of being recorded against one document. -/
def isInfrastructure (e : MigrationError) : Bool :=
  e.kind == .infrastructure || e.kind == .database || e.kind == .io

/-- The chain of causes, outermost first, down to the detail. -/
def trace (e : MigrationError) : List String :=
  if e.kind.hasCause then [e.message, e.detail] else [e.message]

theorem head_trace (e : MigrationError) : e.trace.head? = some e.message := by
  unfold trace
  split <;> rfl

end MigrationError

/-- The error of a text that is not the expected JSON. -/
def malformedJson : MigrationError :=
  ⟨.json, "the text is not a value of the expected form"⟩

end SpaceMigration
