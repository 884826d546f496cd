import SpaceMigration.Proofs.Deliveries
import SpaceMigration.Proofs.LogText
import SpaceMigration.Proofs.StoreHistory
import SpaceMigration.Proofs.Transcript

/-!
# The audit record of a run

A job runs into a store and is announced to a listener, which records it in the same store. If the
audit document waits, its record afterwards is that of the run: which job, how it ended, which
spaces it migrated, and its whole log. Otherwise the listener reports one failure, and no audit row
has changed. Neither depends on how the run went: runs that fail or are cancelled are audited like
those that succeed.

## Main results

* `Store.record_of_unexecuted`, `Store.record_of_none`, `Store.record_of_executed` — recording a
  finished job, by the row it meets
* `MigrationJob.run_is_audited` — the record of a run, whatever its faults
-/

namespace SpaceMigration

open Completion

/-! ### Recording a finished job -/

section

variable {now : Timestamp} {signal : JobFinished} {store : Store}

/-- A signal that is not turned away is recorded in the steps of a delivery. -/
theorem Store.record_eq_runIn (h : precheck signal = none) (now : Timestamp) (store : Store) :
    store.record now signal =
      ((waiting (.ofSnapshot signal.job now)).runIn (asAuditStore now)).run store := by
  rw [record, ← runIn_delivery, delivery_eq_waiting h]
  rfl

theorem Store.record_of_unexecuted (h : precheck signal = none) {existing : AuditRecord}
    (hload : store.loadRecord signal.job.request.auditDocument = .ok (some existing))
    (hexisting : existing.executed = false) :
    store.record now signal = (.ok .recorded, store.written now (.ofSnapshot signal.job now)) := by
  rw [record_eq_runIn h, ← AuditProgram.runIn_step, step_waiting_of_unexecuted hload hexisting,
    ← AuditProgram.runIn_step, step_saving_of_unexecuted rfl hload hexisting]
  rfl

/-- The recorded end of a job is read as it was written, with its time. -/
theorem Store.loadRecord_written_ofSnapshot (store : Store) (job : JobSnapshot)
    (h : now.HasPlainYear) :
    (store.written now (.ofSnapshot job now)).loadRecord job.request.auditDocument =
      .ok (some (.ofSnapshot job now)) :=
  store.loadRecord_written now (.ofSnapshot job now) h

/-- A delivery that is complete after its first step has written nothing. -/
theorem Store.record_of_step (h : precheck signal = none)
    {result : Except MigrationError Completion}
    (hstep : (waiting (.ofSnapshot signal.job now)).step now store = (.done result, store)) :
    store.record now signal = (result, store) := by
  rw [record_eq_runIn h, ← AuditProgram.runIn_step, hstep]
  rfl

theorem Store.record_of_none (h : precheck signal = none)
    (hrow : store.audit.get? signal.job.request.auditDocument.path = none) :
    store.record now signal = (.error (noDocument signal.job.request.auditDocument), store) := by
  have hload : store.loadRecord signal.job.request.auditDocument = .ok none := by
    rw [loadRecord, hrow]
  exact record_of_step h (by simp [waiting, AuditProgram.step, AuditRecord.ofSnapshot, hload])

theorem judge_of_jobId_ne {existing record : AuditRecord} (h : existing.jobId ≠ record.jobId) :
    ∃ e, judge existing record = .error e := by
  have hcontent : existing.sameContent record = false := by
    rw [AuditRecord.sameContent, decide_eq_false_iff_not]
    intro hsame
    exact h (AuditRecord.mk.inj hsame).2.2.1
  rw [judge, hcontent]
  exact ⟨_, rfl⟩

/-- Against a row that another job executed, a signal is refused, whether the row can be read or
not. -/
theorem Store.record_of_executed (h : precheck signal = none) {row : AuditRow}
    (hrow : store.audit.get? signal.job.request.auditDocument.path = some row)
    (hexecuted : row.executed = true) (hjob : row.jobId ≠ some signal.job.id) :
    ∃ e, store.record now signal = (.error e, store) := by
  have hload : store.loadRecord signal.job.request.auditDocument =
      (row.decode signal.job.request.auditDocument.path).map some := by
    rw [loadRecord, hrow]
  cases hdecode : row.decode signal.job.request.auditDocument.path with
  | error e =>
    rw [hdecode] at hload
    refine ⟨loadFailed signal.job.request.auditDocument e, record_of_step h ?_⟩
    simp [waiting, AuditProgram.step, AuditRecord.ofSnapshot, hload, Except.map]
  | ok existing =>
    rw [hdecode] at hload
    obtain ⟨hstored, hstoredJob⟩ := AuditRow.stored_of_decode hdecode
    have hne : existing.jobId ≠ (AuditRecord.ofSnapshot signal.job now).jobId := by
      rw [hstoredJob]
      exact hjob
    obtain ⟨e, he⟩ := judge_of_jobId_ne hne
    refine ⟨e, record_of_step h ?_⟩
    rw [step_waiting_of_executed hload (hstored.trans hexecuted), he]

end

/-- A listener of one job records it, and reports the failure to do so. -/
theorem run_announce (now : Timestamp) (job : JobSnapshot) (store : Store) :
    (announce (Store.asAuditStore now) (pure now) job).run store =
      (match (store.record now ⟨job.jobType, job⟩).1 with
        | .ok _ => []
        | .error e => [e], (store.record now ⟨job.jobType, job⟩).2) := by
  rw [announce_eq, pure_bind]
  rfl

/-! ### Whole runs -/

/-- The end of a run is announced as that of a finished migration. -/
theorem RunTranscript.precheck_eq_none {job : MigrationJob} {calls : List Call}
    {snapshot : JobSnapshot} (h : RunTranscript job calls snapshot) :
    precheck ⟨snapshot.jobType, snapshot⟩ = none := by
  cases h <;> exact Completion.precheck_eq_none rfl rfl

theorem RunTranscript.request_eq {job : MigrationJob} {calls : List Call}
    {snapshot : JobSnapshot} (h : RunTranscript job calls snapshot) :
    snapshot.request = job.request := by
  cases h <;> rfl

/-- **Every run is audited faithfully.** A job runs into a store, behind any script of faults, and a
listener records its end.

* If the audit document waited, the listener reports no failure, and the record read back is
  executed and holds the identity of the job, its outcome, its migrated spaces, and a text that
  parses to its log.
* If the audit document has no row, or one that another job executed, the listener reports one
  failure, and the audit rows are those from before the run.

The clock of the listener shows a year that the stored format can hold. -/
theorem MigrationJob.run_is_audited {σ : Type} (job : MigrationJob) (host : Host (StateM σ))
    (faults : List Fault) (cancelled : Bool) (store : Store) (world : σ) (now : Timestamp)
    (hnow : now.HasPlainYear) :
    let document := job.request.auditDocument
    let (((snapshot, saved), _), _) :=
      (((job.run (host.disturbed faults).savingInto).run store).run cancelled).run world
    let (failures, after) := (announce (Store.asAuditStore now) (pure now) snapshot).run saved
    (∀ existing, store.loadRecord document = .ok (some existing) → existing.executed = false →
        failures = [] ∧ ∃ record, after.loadRecord document = .ok (some record) ∧
          record.executed = true ∧ record.jobId = some snapshot.id ∧
          record.outcome =
            some (if snapshot.state = .finishedSuccess then .success else .failure) ∧
          record.migratedSpaces = snapshot.migratedSpaces ∧
          (Json.Value.parse? record.logText).bind (·.asList LogEvent.ofJson?) =
            some snapshot.log) ∧
      ((store.audit.get? document.path = none ∨
          ∃ row, store.audit.get? document.path = some row ∧ row.executed = true ∧
            row.jobId ≠ some snapshot.id) →
        (∃ failure, failures = [failure]) ∧ after.audit = store.audit) := by
  intro document
  obtain ⟨calls, hpath, h⟩ :=
    job.run_transcript (host.disturbed faults).savingInto (store, cancelled, world, ())
  have haudit := hpath.audit_of_savingInto
  change ((((job.run (host.disturbed faults).savingInto).run store).run cancelled).run
    world).1.1.2.audit = store.audit at haudit
  change RunTranscript job calls ((((job.run (host.disturbed faults).savingInto).run store).run
    cancelled).run world).1.1.1 at h
  generalize (((job.run (host.disturbed faults).savingInto).run store).run cancelled).run world =
    outcome at haudit h
  obtain ⟨⟨⟨snapshot, saved⟩, token⟩, world'⟩ := outcome
  have haudit : saved.audit = store.audit := haudit
  have hannounced := h.precheck_eq_none
  have hdocument : snapshot.request.auditDocument = document :=
    congrArg MigrationRequest.auditDocument h.request_eq
  simp only [run_announce]
  constructor
  · intro existing hload hexisting
    have hload' : saved.loadRecord snapshot.request.auditDocument = .ok (some existing) := by
      rw [hdocument, ← hload]
      exact Store.loadRecord_congr (by rw [haudit])
    have hstored := saved.loadRecord_written_ofSnapshot snapshot hnow
    rw [hdocument] at hstored
    rw [Store.record_of_unexecuted hannounced hload' hexisting]
    exact ⟨rfl, _, hstored, rfl, rfl, rfl, rfl, snapshot.parse_logText⟩
  · intro hrow
    rw [← hdocument, ← haudit] at hrow
    rcases hrow with hnone | ⟨row, hrow, hexecuted, hjob⟩
    · rw [Store.record_of_none hannounced hnone]
      exact ⟨⟨_, rfl⟩, haudit⟩
    · obtain ⟨e, he⟩ := Store.record_of_executed hannounced hrow hexecuted hjob
      rw [he]
      exact ⟨⟨e, rfl⟩, haudit⟩

/-- A job that is cancelled before it begins is audited as a failure. -/
theorem run_is_audited_when_cancelled :
    let job := MigrationJob.new "job-1" ⟨⟨"Audit"⟩, ⟨"Migrated"⟩, [⟨"ENG", "Engineering"⟩]⟩
    let host : Host (StateM Unit) :=
      .ofExport .empty .empty (pure .epoch) (pure false) fun _ => pure (.ok ())
    let (((snapshot, saved), _), _) := (((job.run (host.disturbed []).savingInto).run
      (Store.empty.withAuditRow ⟨"Audit"⟩)).run true).run ()
    let (failures, after) :=
      (announce (Store.asAuditStore .epoch) (pure .epoch) snapshot).run saved
    Timestamp.epoch.HasPlainYear ∧ failures = [] ∧
      ∃ record, after.loadRecord ⟨"Audit"⟩ = .ok (some record) ∧
        record.outcome = some .failure := by
  intro job host
  have hyear : Timestamp.epoch.HasPlainYear := ⟨by decide, by decide⟩
  have hload : (Store.empty.withAuditRow ⟨"Audit"⟩).loadRecord ⟨"Audit"⟩ =
      .ok (some (.unexecuted ⟨"Audit"⟩)) := rfl
  obtain ⟨hfailures, record, hrecord, -, -, houtcome, -⟩ :=
    (job.run_is_audited host [] true (Store.empty.withAuditRow ⟨"Audit"⟩) () .epoch hyear).1 _
      hload rfl
  exact ⟨hyear, hfailures, record, hrecord, houtcome⟩

end SpaceMigration
