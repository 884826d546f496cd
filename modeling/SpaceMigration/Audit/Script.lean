import SpaceMigration.Audit.Completion

/-!
# A scripted audit store

An audit store whose answers are given in advance, and which remembers what it was asked. It stands
for any store in statements about what recording a signal does with the answers it gets.
-/

namespace SpaceMigration

/-- A step asked of an audit store. -/
inductive AuditStep where
  | load (document : EntityReference)
  | save (record : AuditRecord)
deriving DecidableEq

/-- The answers still to be given, and the steps asked so far. -/
structure AuditScript where
  loads : List (Except MigrationError (Option AuditRecord))
  saves : List (Except MigrationError Bool)
  steps : List AuditStep

namespace AuditScript

/-- Answers a load with the next answer; without one, there is no record. -/
def load (document : EntityReference) :
    StateM AuditScript (Except MigrationError (Option AuditRecord)) := fun script =>
  let steps := script.steps ++ [.load document]
  match script.loads with
  | [] => (.ok none, { script with steps })
  | answer :: rest => (answer, { script with loads := rest, steps })

/-- Answers a save with the next answer; without one, the record is written. -/
def saveExecuted (record : AuditRecord) : StateM AuditScript (Except MigrationError Bool) :=
  fun script =>
    let steps := script.steps ++ [.save record]
    match script.saves with
    | [] => (.ok true, { script with steps })
    | answer :: rest => (answer, { script with saves := rest, steps })

/-- The script as an audit store. -/
def asAuditStore : AuditStore (StateM AuditScript) where
  load := load
  saveExecuted := saveExecuted

end AuditScript

end SpaceMigration
