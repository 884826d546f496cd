import SpaceMigration.Proofs.AuditOnce
import SpaceMigration.Proofs.AuditedRun

/-!
# Signals that are delivered again

Recording a signal is all or nothing. Either the row of its audit document was waiting and now
holds the record of the signal, or no table has changed, whatever the rows hold and whatever went
wrong (`Store.record_writes_iff_recorded`).

So a second delivery meets the record of the first, however much has happened in between. It is a
repeat if it tells of the same run, and refused otherwise (`later_delivery_is_judged`). What was
written is compared with what is offered after a way through the columns of the row, which loses
nothing that counts.

## Main definitions

* `JobSnapshot.TellsSameRun` — the parts of a finished job that an audit record compares

## Main results

* `Store.record_cases` — everything that recording a signal can do to a store
* `Store.record_writes_iff_recorded` — the store changes exactly if the signal is recorded
* `later_delivery_is_judged` — how a delivery after the recorded one ends
-/

namespace SpaceMigration

open Completion

/-! ### What recording does to a store -/

theorem Store.record_eq_of_handle {now : Timestamp} {signal : JobFinished} {store store' : Store}
    {result : Except MigrationError Completion} (noted : List AuditEvent)
    (h : store.handle now signal = (noted ++ [.handled signal result], store')) :
    store.record now signal = (result, store') := by
  obtain ⟨before, hhandle⟩ := store.handle_eq_record now signal
  rw [h] at hhandle
  obtain ⟨hevents, hstore⟩ := Prod.mk.inj hhandle
  have hlast := (List.append_inj' hevents rfl).2
  cases hlast
  exact Prod.ext rfl hstore.symm

/-- A signal is recorded over the unexecuted row of its document, or the store is left alone. -/
theorem Store.record_cases (now : Timestamp) (signal : JobFinished) (store : Store) :
    (∃ result, result ≠ .ok .recorded ∧ store.record now signal = (result, store)) ∨
      ∃ row, store.audit.get? signal.job.request.auditDocument.path = some row ∧
        row.executed = false ∧
        store.record now signal =
          (.ok .recorded, store.written now (.ofSnapshot signal.job now)) := by
  obtain ⟨result, hresult, h⟩ | ⟨saved, result, store', hsaved, hresult, h⟩ :=
    store.handle_cases now signal
  · exact .inl ⟨result, hresult, record_eq_of_handle [] h⟩
  · have hrecord := record_eq_of_handle [.saved _ saved] h
    obtain ⟨e, hcase⟩ | ⟨row, hrow, ⟨-, hcase⟩ | ⟨hunexecuted, hcase⟩⟩ :=
      store.saveExecuted_cases now (.ofSnapshot signal.job now)
    · cases hsaved.symm.trans hcase
      exact .inl ⟨result, by simp [hresult], hrecord⟩
    · cases hsaved.symm.trans hcase
      exact .inl ⟨result, by simp [hresult], hrecord⟩
    · cases hsaved.symm.trans hcase
      rw [hresult.2 rfl] at hrecord
      exact .inr ⟨row, hrow, hunexecuted, hrecord⟩

theorem Store.written_ne (now : Timestamp) {record : AuditRecord} {store : Store} {row : AuditRow}
    (hrow : store.audit.get? record.document.path = some row) (h : row.executed = false) :
    (store.written now record).audit.get? record.document.path ≠ some row := by
  rw [get?_written, if_pos rfl]
  intro hsame
  cases Option.some.inj hsame
  cases h

/-! ### Records of the same run -/

/-- The two ends tell of the same run: the same job, the same outcome, the same migrated spaces, and
the same text of the log. -/
structure JobSnapshot.TellsSameRun (a b : JobSnapshot) : Prop where
  id : a.id = b.id
  succeeded : a.succeeded = b.succeeded
  migratedSpaces : a.migratedSpaces = b.migratedSpaces
  logText : a.logText = b.logText

theorem JobOutcome.ofState_eq_ofState_iff (a b : JobState) :
    ofState a = ofState b ↔ (a == .finishedSuccess) = (b == .finishedSuccess) := by
  cases a <;> cases b <;> decide

/-- The records of two finished jobs with one audit document have the same content exactly if they
tell of the same run. When they were recorded does not matter. -/
theorem AuditRecord.sameContent_ofSnapshot_iff {a b : JobSnapshot}
    (h : a.request.auditDocument = b.request.auditDocument) (now now' : Timestamp) :
    (ofSnapshot a now).sameContent (ofSnapshot b now') = true ↔ a.TellsSameRun b := by
  rw [sameContent, decide_eq_true_iff]
  simp only [ofSnapshot, AuditRecord.mk.injEq, Option.some.injEq, h, true_and, and_true,
    JobOutcome.ofState_eq_ofState_iff]
  constructor
  · rintro ⟨hid, hstate, hspaces, hlog⟩
    exact ⟨hid, hstate, hspaces, hlog⟩
  · rintro ⟨hid, hstate, hspaces, hlog⟩
    exact ⟨hid, hstate, hspaces, hlog⟩

/-! ### One delivery -/

/-- **The store changes exactly if the signal is recorded**, whatever its rows hold. Then the row of
the audit document was waiting, it is the only row that changes, and the record read from it is that
of the signal, if the clock showed a year that the stored format can hold. In every other case, a
failure of any kind included, every table stays as it is. -/
theorem Store.record_writes_iff_recorded (now : Timestamp) (signal : JobFinished) (store : Store) :
    let document := signal.job.request.auditDocument
    let (result, after) := store.record now signal
    (after ≠ store ↔ result = .ok .recorded) ∧
      (result = .ok .recorded →
        (∃ row, store.audit.get? document.path = some row ∧ row.executed = false ∧
          after.audit.get? document.path ≠ some row) ∧
        (∀ path, path ≠ document.path → after.audit.get? path = store.audit.get? path) ∧
        after.documents = store.documents ∧ after.metadata = store.metadata ∧
        (now.HasPlainYear → ∃ record, after.loadRecord document = .ok (some record) ∧
          record.sameContent (.ofSnapshot signal.job now) = true)) ∧
      (result ≠ .ok .recorded → after.audit = store.audit ∧
        after.documents = store.documents ∧ after.metadata = store.metadata) := by
  intro document
  obtain ⟨result, hresult, h⟩ | ⟨row, hrow, hunexecuted, h⟩ := store.record_cases now signal
  · rw [h]
    exact ⟨by simp [hresult], fun hrecorded => absurd hrecorded hresult, fun _ => ⟨rfl, rfl, rfl⟩⟩
  · rw [h]
    have hchanged : (store.written now (.ofSnapshot signal.job now)).audit.get? document.path ≠
        some row := Store.written_ne now hrow hunexecuted
    refine ⟨?_, fun _ => ⟨⟨row, hrow, hunexecuted, hchanged⟩, ?_, rfl, rfl, ?_⟩, ?_⟩
    · refine ⟨fun _ => rfl, fun _ hsame => hchanged ?_⟩
      rw [hsame]
      exact hrow
    · intro path hpath
      exact (store.get?_written now _ path).trans (if_neg hpath)
    · intro hnow
      exact ⟨_, store.loadRecord_written_ofSnapshot signal.job hnow,
        (AuditRecord.sameContent_ofSnapshot_iff rfl now now).2 ⟨rfl, rfl, rfl, rfl⟩⟩
    · intro hrecorded
      exact absurd rfl hrecorded

/-- The end of a job is recorded in a document that waits, and read back. -/
theorem record_writes_waiting_document :
    let signal := Race.emptySignal "job-1"
    let store := Store.empty.withAuditRow ⟨"Audit"⟩
    let (result, after) := store.record .epoch signal
    Timestamp.epoch.HasPlainYear ∧ result = .ok .recorded ∧ after ≠ store ∧
      ∃ record, after.loadRecord ⟨"Audit"⟩ = .ok (some record) ∧
        record.sameContent (.ofSnapshot signal.job .epoch) = true := by
  intro signal store
  have hyear : Timestamp.epoch.HasPlainYear := ⟨by decide, by decide⟩
  have hresult : (store.record .epoch signal).1 = .ok .recorded := rfl
  obtain ⟨hchanged, hrecorded, -⟩ := store.record_writes_iff_recorded .epoch signal
  exact ⟨hyear, hresult, hchanged.2 hresult, (hrecorded hresult).2.2.2.2 hyear⟩

/-! ### Later deliveries -/

/-- A delivery that finds its document executed is judged by the record that is stored there. -/
theorem Store.record_of_stored {signal : JobFinished} {store : Store} {existing : AuditRecord}
    (h : precheck signal = none)
    (hload : store.loadRecord signal.job.request.auditDocument = .ok (some existing))
    (hexisting : existing.executed = true) (now : Timestamp) :
    store.record now signal = (judge existing (.ofSnapshot signal.job now), store) :=
  record_of_step h (step_waiting_of_executed hload hexisting)

/-- What is recorded was not turned away. -/
theorem Store.precheck_of_recorded {now : Timestamp} {signal : JobFinished} {store : Store}
    (h : (store.record now signal).1 = .ok .recorded) : precheck signal = none := by
  cases hpre : precheck signal with
  | none => rfl
  | some verdict =>
    rw [record, recordCompletion, hpre] at h
    exact absurd h (precheck_ne_recorded hpre)

/-- A recorded signal is read back from its row for as long as the store lives. -/
theorem loadRecord_performAll_of_recorded {store : Store} {now : Timestamp} {first : JobFinished}
    (hnow : now.HasPlainYear) (hfirst : (store.record now first).1 = .ok .recorded)
    (operations : List StoreOperation) :
    (performAll operations (store.record now first).2).2.loadRecord
        first.job.request.auditDocument = .ok (some (.ofSnapshot first.job now)) := by
  obtain ⟨result, hresult, h⟩ | ⟨row, -, -, h⟩ := store.record_cases now first
  · rw [h] at hfirst
    exact absurd hfirst hresult
  · have hstored := store.loadRecord_written_ofSnapshot first.job hnow
    have hrow : (store.written now (.ofSnapshot first.job now)).audit.get?
        first.job.request.auditDocument.path = some (.ofRecord (.ofSnapshot first.job now) now) :=
      (store.get?_written now _ _).trans (if_pos rfl)
    rw [h, ← hstored]
    exact loadRecord_performAll_of_executed hrow rfl operations

/-- **A later delivery is judged by the recorded one**, whatever has happened to the store in
between. If it tells of the same run, it is taken for a repeat; if not, it is refused, with the
identity of the recorded job. Neither writes anything. In particular, the recorded signal itself may
be delivered again at any time. The clock of the first delivery is taken to show a year of four
digits: a later one is stored in a form that is not read back. -/
theorem later_delivery_is_judged {store : Store} {now : Timestamp} {first : JobFinished}
    (hnow : now.HasPlainYear) (hfirst : (store.record now first).1 = .ok .recorded)
    (operations : List StoreOperation) (later : Timestamp) {signal : JobFinished}
    (htype : signal.jobType = migrationJobType) (hstate : signal.job.state.isTerminal = true)
    (hdocument : first.job.request.auditDocument = signal.job.request.auditDocument) :
    let (_, after) := performAll operations (store.record now first).2
    (first.job.TellsSameRun signal.job →
        after.record later signal = (.ok .alreadyRecorded, after)) ∧
      (¬ first.job.TellsSameRun signal.job →
        after.record later signal = (.error ⟨.alreadyExecuted,
          first.job.request.auditDocument.path ++ " was executed by job " ++ first.job.id⟩,
          after)) ∧
      after.record later first = (.ok .alreadyRecorded, after) := by
  have hload := loadRecord_performAll_of_recorded hnow hfirst operations
  generalize performAll operations (store.record now first).2 = outcome at hload ⊢
  obtain ⟨events, after⟩ := outcome
  have hsame := AuditRecord.sameContent_ofSnapshot_iff hdocument now later
  have hjudged :=
    Store.record_of_stored (precheck_eq_none htype hstate) (hdocument ▸ hload) rfl later
  refine ⟨?_, ?_, ?_⟩
  · intro htells
    rw [hjudged, judge, if_pos (hsame.2 htells)]
  · intro htells
    rw [hjudged, judge, if_neg (mt hsame.1 htells), hdocument]
    rfl
  · rw [Store.record_of_stored (Store.precheck_of_recorded hfirst) hload rfl later, judge,
      if_pos ((AuditRecord.sameContent_ofSnapshot_iff rfl now later).2 ⟨rfl, rfl, rfl, rfl⟩)]

/-- After the store was opened again, the end of a second job is refused. -/
theorem later_delivery_of_second_job :
    let store := Store.empty.withAuditRow ⟨"Audit"⟩
    let first := Race.emptySignal "job-1"
    let second := Race.emptySignal "job-2"
    let (_, after) := performAll [.reopen, .createRecord ⟨"Audit"⟩] (store.record .epoch first).2
    Timestamp.epoch.HasPlainYear ∧ (store.record .epoch first).1 = .ok .recorded ∧
      second.jobType = migrationJobType ∧ second.job.state.isTerminal = true ∧
      first.job.request.auditDocument = second.job.request.auditDocument ∧
      after.record .epoch second =
        (.error ⟨.alreadyExecuted, "Audit was executed by job job-1"⟩, after) := by
  intro store first second
  have hyear : Timestamp.epoch.HasPlainYear := ⟨by decide, by decide⟩
  have hfirst : (store.record .epoch first).1 = .ok .recorded := rfl
  have htype : second.jobType = migrationJobType := rfl
  have hstate : second.job.state.isTerminal = true := rfl
  have hdocument : first.job.request.auditDocument = second.job.request.auditDocument := rfl
  obtain ⟨-, hrefused, -⟩ := later_delivery_is_judged hyear hfirst
    [.reopen, .createRecord ⟨"Audit"⟩] .epoch htype hstate hdocument
  refine ⟨hyear, hfirst, htype, hstate, hdocument, hrefused ?_⟩
  intro hsame
  exact absurd hsame.id (by decide)

end SpaceMigration
