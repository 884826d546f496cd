import SpaceMigration.Export
import SpaceMigration.Macro.Converter
import SpaceMigration.Time.Timestamp

/-!
# What a job asks of its surroundings

A running job reads a clock, looks whether it has been cancelled, reads its source, converts macros
and saves documents. A `Host m` is one way to do these six things in a monad `m`. The run of a job
(`SpaceMigration.Job.Run`) is written once, for every host: a host over `StateM` simulates
surroundings as a value, a host over `IO` reaches real ones.

Calls fail with an error as their value, so that a failed call keeps its effects.
-/

namespace SpaceMigration

/-- The surroundings of a running job. -/
structure Host (m : Type → Type) where
  /-- The current time. -/
  clock : m Timestamp
  /-- Whether the job has been cancelled. -/
  isCancelled : m Bool
  /-- The identifiers of the documents of a space. -/
  list : (spaceKey : String) → m (Except MigrationError (List String))
  /-- A document of a space. -/
  load : (spaceKey documentId : String) → m (Except MigrationError SourceDocument)
  /-- What becomes of a macro. -/
  convert : Occurrence → m (Except MigrationError Conversion)
  /-- Saves a converted document. -/
  save : TargetDocument → m (Except MigrationError Unit)

/-- The host that reads an export and converts with a registry; its clock, its cancellation and its
target are given. -/
def Host.ofExport {m : Type → Type} [Monad m] (source : Export) (registry : Registry)
    (clock : m Timestamp) (isCancelled : m Bool)
    (save : TargetDocument → m (Except MigrationError Unit)) : Host m where
  clock := clock
  isCancelled := isCancelled
  list spaceKey := pure (source.list spaceKey)
  load spaceKey documentId := pure (source.load spaceKey documentId)
  convert o := pure (registry.convert o)
  save := save

end SpaceMigration
