import SpaceMigration.Proofs.JsonRecords
import SpaceMigration.Proofs.TimeText
import SpaceMigration.Store.Audit

/-!
# The rows of audit records

What each step of an audit store does to the row of a document, and that the row of an executed
record holds the record: it is read back with all its parts.

## Main results

* `AuditRow.decode_ofRecord` — the row of a record is read as the record
* `Store.saveExecuted_cases` — everything that saving a record can do
* `executed_record_is_kept` — an executed record is saved once, and read as it was saved
-/

namespace SpaceMigration

open Json

namespace AuditRow

/-! ### Reading a row -/

theorem readOutcome_name (document : String) (outcome : Option JobOutcome) :
    readOutcome document (outcome.map JobOutcome.name) = .ok outcome := by
  cases outcome with
  | none => rfl
  | some outcome => simp [readOutcome, JobOutcome.ofName?_name]

theorem readTime_toOffsetText {t : Timestamp} (h : t.HasPlainYear) :
    readTime (some t.toOffsetText) = .ok (some t) := by
  simp [readTime, Timestamp.readStrict_toOffsetText h]

theorem readSpaces_compact (spaces : List EntityReference) :
    readSpaces (Value.array (spaces.map EntityReference.toJson)).compact = .ok spaces := by
  have hplain : (Value.array (spaces.map EntityReference.toJson)).Plain :=
    @Value.Plain.map _ EntityReference.toJson (fun reference => .text reference.path) spaces
  have hread (reference : EntityReference) :
      EntityReference.ofJson? reference.toJson = some reference := rfl
  rw [readSpaces, hplain.parse?_compact, Option.bind_some, Value.asList_map hread]

/-- **The row of a record is read as the record.** A record without a time gets the time of the
row. -/
theorem decode_ofRecord (record : AuditRecord) (now : Timestamp)
    (h : (record.executedAt.getD now).HasPlainYear) :
    (ofRecord record now).decode record.document.path =
      .ok { record with executed := true, executedAt := some (record.executedAt.getD now) } := by
  simp only [decode, ofRecord, readOutcome_name, readTime_toOffsetText h, readSpaces_compact]
  rfl

/-- Decoding leaves the mark of execution and the job as they are stored. -/
theorem stored_of_decode {document : String} {row : AuditRow} {record : AuditRecord}
    (h : row.decode document = .ok record) :
    record.executed = row.executed ∧ record.jobId = row.jobId := by
  rw [decode] at h
  cases houtcome : readOutcome document row.outcome with
  | error e =>
    rw [houtcome] at h
    cases h
  | ok outcome =>
    cases htime : readTime row.executedAt with
    | error e =>
      rw [houtcome, htime] at h
      cases h
    | ok time =>
      cases hspaces : readSpaces row.migratedSpaces with
      | error e =>
        rw [houtcome, htime, hspaces] at h
        cases h
      | ok spaces =>
        rw [houtcome, htime, hspaces] at h
        cases h
        exact ⟨rfl, rfl⟩

end AuditRow

namespace Store

/-! ### Creating and saving -/

theorem createRecord_snd (document : EntityReference) (store : Store) :
    (store.createRecord document).2 = store.withAuditRow document := by
  rw [createRecord]
  split <;> rfl

/-- A row is created where there is none; every other row stays. -/
theorem get?_withAuditRow (store : Store) (created : EntityReference) (path : String) :
    (store.withAuditRow created).audit.get? path =
      (store.audit.get? path).or (if path = created.path then some .unexecuted else none) := by
  rw [withAuditRow]
  split
  · next hcontains =>
    rw [StringMap.contains, Option.isSome_iff_exists] at hcontains
    obtain ⟨row, hrow⟩ := hcontains
    split
    · next hpath => rw [hpath, hrow, Option.some_or]
    · rw [Option.or_none]
  · next hmissing =>
    have hnone : store.audit.get? created.path = none := by
      simpa [StringMap.contains] using hmissing
    rw [StringMap.get?_insert]
    split
    · next hpath => rw [hpath, hnone, Option.none_or]
    · rw [Option.or_none]

/-- The store with the row of an executed record. -/
def written (now : Timestamp) (record : AuditRecord) (store : Store) : Store :=
  { store with audit := store.audit.insert record.document.path (.ofRecord record now) }

theorem get?_written (now : Timestamp) (record : AuditRecord) (store : Store) (path : String) :
    (store.written now record).audit.get? path =
      if path = record.document.path then some (.ofRecord record now) else store.audit.get? path :=
  StringMap.get?_insert _ _ _ _

theorem saveExecuted_of_executed {now : Timestamp} {record : AuditRecord} {store : Store}
    {row : AuditRow} (hrecord : record.executed = true)
    (hrow : store.audit.get? record.document.path = some row) (h : row.executed = true) :
    store.saveExecuted now record = (.ok false, store) := by
  simp [saveExecuted, hrecord, hrow, h]

theorem saveExecuted_of_unexecuted {now : Timestamp} {record : AuditRecord} {store : Store}
    {row : AuditRow} (hrecord : record.executed = true)
    (hrow : store.audit.get? record.document.path = some row) (h : row.executed = false) :
    store.saveExecuted now record = (.ok true, store.written now record) := by
  simp [saveExecuted, hrecord, hrow, h, written]

theorem saveExecuted_of_not_executed {record : AuditRecord} (h : record.executed = false)
    (now : Timestamp) (store : Store) :
    ∃ e, store.saveExecuted now record = (.error e, store) :=
  ⟨_, by rw [saveExecuted, if_pos (by simp [h])]⟩

theorem saveExecuted_of_get?_eq_none {record : AuditRecord} {store : Store}
    (h : store.audit.get? record.document.path = none) (now : Timestamp) :
    ∃ e, store.saveExecuted now record = (.error e, store) := by
  cases hexecuted : record.executed with
  | false => exact saveExecuted_of_not_executed hexecuted now store
  | true => exact ⟨_, by simp [saveExecuted, hexecuted, h]; rfl⟩

/-- Saving a record fails, or finds the row executed, or writes over the unexecuted row. -/
theorem saveExecuted_cases (now : Timestamp) (record : AuditRecord) (store : Store) :
    (∃ e, store.saveExecuted now record = (.error e, store)) ∨
      ∃ row, store.audit.get? record.document.path = some row ∧
        (row.executed = true ∧ store.saveExecuted now record = (.ok false, store) ∨
          row.executed = false ∧
            store.saveExecuted now record = (.ok true, store.written now record)) := by
  cases hrecord : record.executed with
  | false => exact .inl (saveExecuted_of_not_executed hrecord now store)
  | true =>
    cases hrow : store.audit.get? record.document.path with
    | none => exact .inl (saveExecuted_of_get?_eq_none hrow now)
    | some row =>
      cases h : row.executed with
      | true => exact .inr ⟨row, rfl, .inl ⟨h, saveExecuted_of_executed hrecord hrow h⟩⟩
      | false => exact .inr ⟨row, rfl, .inr ⟨h, saveExecuted_of_unexecuted hrecord hrow h⟩⟩

/-! ### Loading -/

theorem loadRecord_congr {store store' : Store} {document : EntityReference}
    (h : store'.audit.get? document.path = store.audit.get? document.path) :
    store'.loadRecord document = store.loadRecord document := by
  rw [loadRecord, loadRecord, h]

theorem exists_row_of_loadRecord {store : Store} {document : EntityReference}
    {record : AuditRecord} (h : store.loadRecord document = .ok (some record)) :
    ∃ row, store.audit.get? document.path = some row ∧ row.executed = record.executed := by
  rw [loadRecord] at h
  cases hrow : store.audit.get? document.path with
  | none =>
    rw [hrow] at h
    cases h
  | some row =>
    rw [hrow] at h
    cases hdecode : row.decode document.path with
    | error e =>
      simp [hdecode] at h
      cases h
    | ok decoded =>
      simp only [hdecode] at h
      cases h
      exact ⟨row, rfl, (AuditRow.stored_of_decode hdecode).1.symm⟩

theorem loadRecord_written (now : Timestamp) (record : AuditRecord) (store : Store)
    (h : (record.executedAt.getD now).HasPlainYear) :
    (store.written now record).loadRecord record.document =
      .ok (some { record with
        executed := true, executedAt := some (record.executedAt.getD now) }) := by
  rw [loadRecord, get?_written, if_pos rfl]
  simp only [AuditRow.decode_ofRecord record now h]
  rfl

end Store

/-- **An executed record is kept.** Where its document waits, saving the record succeeds; it is then
loaded with all its parts, its time included, nothing else in the store has changed, and no executed
record of the document can be saved again. A record that is not executed, or whose document has no
row, is refused, and the store stays as it is. -/
theorem executed_record_is_kept (record : AuditRecord) (store : Store) (now : Timestamp) :
    (∀ row t, record.executed = true → record.executedAt = some t → t.HasPlainYear →
      store.audit.get? record.document.path = some row → row.executed = false →
      ∃ saved, store.saveExecuted now record = (.ok true, saved) ∧
        saved.loadRecord record.document = .ok (some record) ∧
        (∀ path, path ≠ record.document.path →
          saved.audit.get? path = store.audit.get? path) ∧
        (saved.documents = store.documents ∧ saved.metadata = store.metadata) ∧
        ∀ later other, other.document = record.document → other.executed = true →
          saved.saveExecuted later other = (.ok false, saved)) ∧
    (record.executed = false ∨ store.audit.get? record.document.path = none →
      ∃ e, store.saveExecuted now record = (.error e, store)) := by
  refine ⟨?kept, ?refused⟩
  case kept =>
    intro row t hexecuted htime hyear hrow hwaiting
    have hstamp : record.executedAt.getD now = t := by rw [htime, Option.getD_some]
    refine ⟨store.written now record, Store.saveExecuted_of_unexecuted hexecuted hrow hwaiting,
      ?loaded, ?others, ⟨rfl, rfl⟩, ?again⟩
    case loaded =>
      rw [store.loadRecord_written now record (hstamp.symm ▸ hyear), hstamp, ← htime, ← hexecuted]
    case others =>
      intro path hpath
      rw [Store.get?_written, if_neg hpath]
    case again =>
      intro later other hdocument hother
      have hwritten : (store.written now record).audit.get? other.document.path =
          some (.ofRecord record now) := by
        rw [Store.get?_written, hdocument, if_pos rfl]
      exact Store.saveExecuted_of_executed hother hwritten rfl
  case refused =>
    rintro (hunexecuted | hmissing)
    · exact Store.saveExecuted_of_not_executed hunexecuted now store
    · exact Store.saveExecuted_of_get?_eq_none hmissing now

/-- A record without job and outcome, stamped within the last second of the last year of four
digits, is kept; its text is no JSON, and one of its references is full of escapes. -/
theorem executed_record_is_kept_at_leap_second :
    let t : Timestamp := ⟨⟨9999, 12, 31, by decide⟩, 23, 59, 59, 1999999999, by decide⟩
    let record : AuditRecord :=
      ⟨⟨"Audit"⟩, true, none, none, [⟨"a\"\\\n.é"⟩, ⟨""⟩], "no list [", some t⟩
    let store := (Store.empty.withAuditRow ⟨"Audit"⟩).withAuditRow ⟨"Other"⟩
    (t.HasPlainYear ∧ store.audit.get? "Audit" = some .unexecuted) ∧
      ∃ saved, store.saveExecuted .epoch record = (.ok true, saved) ∧
        saved.loadRecord ⟨"Audit"⟩ = .ok (some record) ∧
        saved.audit.get? "Other" = some .unexecuted ∧
        saved.saveExecuted .epoch record = (.ok false, saved) := by
  intro t record store
  have hyear : t.HasPlainYear := ⟨by decide, by decide⟩
  obtain ⟨saved, hsaved, hloaded, hothers, -, hagain⟩ :=
    (executed_record_is_kept record store .epoch).1 .unexecuted t rfl rfl hyear rfl rfl
  exact ⟨⟨hyear, rfl⟩, saved, hsaved, hloaded, hothers "Other" (by decide),
    hagain .epoch record rfl rfl⟩

end SpaceMigration
