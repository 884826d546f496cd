import SpaceMigration.Proofs.LogText
import SpaceMigration.Proofs.Redelivery

/-!
# No audit record is half written

A row of the audit table is created unexecuted and overwritten as a whole by the record of a
snapshot. As long as no record is saved by hand, these are the only ways in which a row comes about
(`AuditRow.Origin`), whatever else happens to the store and whichever steps fail. This is what every
operation preserves; that a row is pristine or complete, and that it is read back, is read off its
origin.

A row is read back when the clock it was stamped with showed a year of four digits. Nothing else
about the rows depends on the clocks.

## Main definitions

* `AuditRow.Pristine`, `AuditRow.Complete` — the two states of a row
* `AuditRow.Origin` — how a row came about

## Main results

* `StoreOperation.perform_originated` — what one operation preserves
* `audit_rows_are_whole` — the rows of every reachable store
-/

namespace SpaceMigration

open Json

/-! ### The states of a row -/

namespace AuditRow

/-- Nothing of the row has been written. -/
structure Pristine (row : AuditRow) : Prop where
  executed : row.executed = false
  jobId : row.jobId = none
  outcome : row.outcome = none
  migratedSpaces : row.migratedSpaces = "[]"
  logText : row.logText = "[]"
  executedAt : row.executedAt = none

/-- Every part of the row has been written; the outcome is a known word, and the two lists are
read. -/
structure Complete (row : AuditRow) : Prop where
  executed : row.executed = true
  jobId : ∃ id, row.jobId = some id
  outcome : ∃ outcome : JobOutcome, row.outcome = some outcome.name
  migratedSpaces : ∃ spaces, readSpaces row.migratedSpaces = .ok spaces
  logText : ∃ events, (Value.parse? row.logText).bind (·.asList LogEvent.ofJson?) = some events
  executedAt : ∃ text, row.executedAt = some text

/-- How the row of a document comes about when records are written at certain times: it is created,
or it holds the record of a snapshot that names the document. -/
inductive Origin (times : Timestamp → Prop) (path : String) : AuditRow → Prop
  | created : Origin times path .unexecuted
  | recorded {job : JobSnapshot} {now : Timestamp}
      (hpath : job.request.auditDocument.path = path) (hnow : times now) :
      Origin times path (.ofRecord (.ofSnapshot job now) now)

theorem pristine_unexecuted : unexecuted.Pristine :=
  ⟨rfl, rfl, rfl, rfl, rfl, rfl⟩

/-- The row of a snapshot is complete: its log is the log of the snapshot, as text. -/
theorem complete_ofSnapshot (job : JobSnapshot) (now : Timestamp) :
    (ofRecord (.ofSnapshot job now) now).Complete where
  executed := rfl
  jobId := ⟨job.id, rfl⟩
  outcome := ⟨.ofState job.state, rfl⟩
  migratedSpaces := ⟨job.migratedSpaces, readSpaces_compact job.migratedSpaces⟩
  logText := ⟨job.log, job.parse_logText⟩
  executedAt := ⟨now.toOffsetText, rfl⟩

namespace Origin

variable {times : Timestamp → Prop} {path : String} {row : AuditRow}

theorem pristine_or_complete (h : Origin times path row) : row.Pristine ∨ row.Complete := by
  cases h with
  | created => exact .inl pristine_unexecuted
  | @recorded job now => exact .inr (complete_ofSnapshot job now)

theorem exists_decode_eq (h : Origin times path row) (htimes : ∀ t, times t → t.HasPlainYear) :
    ∃ record, row.decode path = .ok record := by
  cases h with
  | created => exact ⟨.unexecuted ⟨path⟩, rfl⟩
  | @recorded job now hpath hnow =>
    rw [← hpath]
    exact ⟨_, decode_ofRecord (.ofSnapshot job now) now (htimes now hnow)⟩

end Origin

end AuditRow

/-! ### Operations -/

/-- The reading of the clock that an operation stamps records with. -/
def StoreOperation.clock? : StoreOperation → Option Timestamp
  | saveExecuted now _ | handle now _ | runJob _ _ _ now => some now
  | createRecord _ | saveDocument _ | initDb | reopen => none

/-- The operation saves a record that is handed to it. -/
def StoreOperation.savesByHand : StoreOperation → Bool
  | saveExecuted _ _ => true
  | createRecord _ | saveDocument _ | initDb | reopen | handle _ _ | runJob _ _ _ _ => false

/-- Every row was created or holds the record of a snapshot written at one of the given times. -/
def Store.Originated (times : Timestamp → Prop) (store : Store) : Prop :=
  ∀ path row, store.audit.get? path = some row → row.Origin times path

namespace Store.Originated

variable {times : Timestamp → Prop} {store after : Store}

theorem empty : Store.empty.Originated times :=
  fun _ _ h => nomatch h

theorem congr (h : store.Originated times) (haudit : after.audit = store.audit) :
    after.Originated times := by
  intro path row hrow
  rw [haudit] at hrow
  exact h path row hrow

theorem withAuditRow (h : store.Originated times) (document : EntityReference) :
    (store.withAuditRow document).Originated times := by
  intro path row hrow
  rw [get?_withAuditRow, Option.or_eq_some_iff] at hrow
  obtain hrow | ⟨-, hrow⟩ := hrow
  · exact h path row hrow
  · split at hrow
    · cases hrow
      exact .created
    · cases hrow

theorem written (h : store.Originated times) (job : JobSnapshot) {now : Timestamp}
    (hnow : times now) : (store.written now (.ofSnapshot job now)).Originated times := by
  intro path row hrow
  rw [get?_written] at hrow
  split at hrow
  · next hpath =>
    cases hrow
    exact .recorded hpath.symm hnow
  · exact h path row hrow

/-- Handling a signal writes the whole record of its snapshot, or nothing. -/
theorem handle (h : store.Originated times) (signal : JobFinished) {now : Timestamp}
    (hnow : times now) : (store.handle now signal).2.Originated times := by
  obtain ⟨noted, hhandle⟩ := store.handle_eq_record now signal
  rw [hhandle]
  obtain ⟨result, -, hrecord⟩ | ⟨row, -, -, hrecord⟩ := store.record_cases now signal
  · rw [hrecord]
    exact h
  · rw [hrecord]
    exact h.written signal.job hnow

end Store.Originated

/-- **One operation preserves the origin of the rows**, whether it succeeds or fails, if it does not
save a record by hand. -/
theorem StoreOperation.perform_originated {times : Timestamp → Prop} {store : Store}
    {operation : StoreOperation} (hhand : operation.savesByHand = false)
    (htimes : ∀ t, operation.clock? = some t → times t) (h : store.Originated times) :
    (operation.perform store).2.Originated times := by
  cases operation with
  | createRecord document =>
    rw [perform, Store.createRecord_snd]
    exact h.withAuditRow document
  | saveExecuted now record => cases hhand
  | saveDocument document => exact h.congr rfl
  | initDb => exact h
  | reopen =>
    rw [perform_reopen]
    exact h
  | handle now signal => exact h.handle signal (htimes now rfl)
  | runJob job host world now =>
    obtain ⟨calls, hpath, -⟩ := job.run_transcript host.savingInto (store, world, ())
    have haudit := hpath.audit_of_savingInto
    change (((job.run host.savingInto).run store).run world).1.2.audit = store.audit at haudit
    rw [perform]
    generalize ((job.run host.savingInto).run store).run world = outcome at haudit
    obtain ⟨⟨finished, saved⟩, world'⟩ := outcome
    have hsaved : saved.Originated times := h.congr haudit
    exact hsaved.handle ⟨finished.jobType, finished⟩ (htimes now rfl)

theorem performAll_originated {times : Timestamp → Prop} {operations : List StoreOperation}
    (hhand : ∀ operation ∈ operations, operation.savesByHand = false)
    (htimes : ∀ operation ∈ operations, ∀ t, operation.clock? = some t → times t) {store : Store}
    (h : store.Originated times) : (performAll operations store).2.Originated times := by
  induction operations generalizing store with
  | nil => exact h
  | cons operation rest ih =>
    obtain ⟨hhandFirst, hhandRest⟩ := List.forall_mem_cons.1 hhand
    obtain ⟨htimesFirst, htimesRest⟩ := List.forall_mem_cons.1 htimes
    exact ih hhandRest htimesRest (operation.perform_originated hhandFirst htimesFirst h)

/-- **No audit record is half written.** In every store that is reached from the empty one without
saving records by hand, every audit row is pristine or complete; and every row is loaded, if the
clocks of the operations showed years of four digits. -/
theorem audit_rows_are_whole {operations : List StoreOperation}
    (hhand : ∀ operation ∈ operations, operation.savesByHand = false) :
    let store := (performAll operations .empty).2
    ∀ path row, store.audit.get? path = some row →
      (row.Pristine ∨ row.Complete) ∧
      ((∀ operation ∈ operations, ∀ t, operation.clock? = some t → t.HasPlainYear) →
        ∃ record, store.loadRecord ⟨path⟩ = .ok (some record)) := by
  let times (t : Timestamp) : Prop := ∃ operation ∈ operations, operation.clock? = some t
  have horiginated : (performAll operations .empty).2.Originated times :=
    performAll_originated hhand (fun operation hmem t ht => ⟨operation, hmem, ht⟩) .empty
  intro store path row hrow
  have horigin := horiginated path row hrow
  refine ⟨horigin.pristine_or_complete, ?_⟩
  intro hyears
  obtain ⟨record, hdecode⟩ := horigin.exists_decode_eq
    fun t ⟨operation, hmem, ht⟩ => hyears operation hmem t ht
  refine ⟨record, ?_⟩
  rw [Store.loadRecord, hrow]
  exact congrArg (Except.map some) hdecode

/-- Of two documents, one is recorded and the other waits. -/
theorem audit_rows_of_two_documents_are_whole :
    let operations : List StoreOperation :=
      [.createRecord ⟨"Audit"⟩, .createRecord ⟨"Other"⟩, .handle .epoch (Race.emptySignal "job-1")]
    let store := (performAll operations .empty).2
    (∀ operation ∈ operations, operation.savesByHand = false) ∧
      (∃ row, store.audit.get? "Audit" = some row ∧ row.Complete) ∧
      (∃ row, store.audit.get? "Other" = some row ∧ row.Pristine) ∧
      ∃ record, store.loadRecord ⟨"Audit"⟩ = .ok (some record) := by
  intro operations store
  have hhand : ∀ operation ∈ operations, operation.savesByHand = false := by
    simp [operations, StoreOperation.savesByHand]
  have hyears : ∀ operation ∈ operations, ∀ t, operation.clock? = some t → t.HasPlainYear := by
    simp [operations, StoreOperation.clock?, Timestamp.HasPlainYear, Timestamp.epoch]
  obtain ⟨hrecorded, hload⟩ := audit_rows_are_whole hhand "Audit" _ rfl
  obtain ⟨hwaiting, -⟩ := audit_rows_are_whole hhand "Other" _ rfl
  refine ⟨hhand, ⟨_, rfl, ?_⟩, ⟨_, rfl, ?_⟩, hload hyears⟩
  · exact hrecorded.resolve_left fun h => Bool.noConfusion (show true = false from h.executed)
  · exact hwaiting.resolve_right fun h => Bool.noConfusion (show false = true from h.executed)

end SpaceMigration
