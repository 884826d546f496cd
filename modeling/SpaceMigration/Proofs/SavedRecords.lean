import SpaceMigration.Proofs.AuditOnce

/-!
# Which saved records are read back

Saving a record and reading it are two formats of the same row, and they agree in everything but the
year: the time of a record is written with a sign when its year has not four digits, and the reader
of rows knows no sign. A record of such a time is saved all the same. As an executed row is never
written again, the record cannot be read from then on, and no other record can take its place.

## Main results

* `AuditRow.decode_ofRecord_of_not_hasPlainYear` — the row of such a record is not read
* `saved_record_reads_back_iff` — a saved record is read back exactly if its year has four digits
-/

namespace SpaceMigration

/-- The row of a record is not read if the year of its time is written with a sign. -/
theorem AuditRow.decode_ofRecord_of_not_hasPlainYear (record : AuditRecord) (now : Timestamp)
    (h : ¬ (record.executedAt.getD now).HasPlainYear) :
    (ofRecord record now).decode record.document.path = .error ⟨.persistence, timeFault⟩ := by
  simp only [decode, ofRecord, readOutcome_name, readTime,
    Timestamp.readStrict_toOffsetText_eq_none h]
  rfl

theorem Store.loadRecord_written_of_not_hasPlainYear (now : Timestamp) (record : AuditRecord)
    (store : Store) (h : ¬ (record.executedAt.getD now).HasPlainYear) :
    (store.written now record).loadRecord record.document =
      .error ⟨.persistence, AuditRow.timeFault⟩ := by
  rw [loadRecord, get?_written, if_pos rfl]
  simp only [AuditRow.decode_ofRecord_of_not_hasPlainYear record now h]
  rfl

/-- A save that writes is the save of an executed record. -/
theorem Store.eq_written_of_saveExecuted {now : Timestamp} {record : AuditRecord}
    {store saved : Store} (h : store.saveExecuted now record = (.ok true, saved)) :
    record.executed = true ∧ saved = store.written now record := by
  cases hexecuted : record.executed with
  | false =>
    obtain ⟨e, hcase⟩ := saveExecuted_of_not_executed hexecuted now store
    rw [hcase] at h
    cases h
  | true =>
    refine ⟨rfl, ?_⟩
    obtain ⟨e, hcase⟩ | ⟨row, -, ⟨-, hcase⟩ | ⟨-, hcase⟩⟩ := store.saveExecuted_cases now record
    all_goals
      rw [hcase] at h
      cases h
    rfl

/-- **A saved record is read back exactly if its year has four digits.** After a save that wrote,
and whatever has happened to the store since, the record is then loaded with all its parts; the time
of a record without one is that of the save. If its year has not four digits, every load fails, as
the stored time is not in the format of RFC 3339. Either way no other record of the document is
written any more.

Times are those of `Timestamp`, in which a leap second is at the second 59. -/
theorem saved_record_reads_back_iff (record : AuditRecord) {store saved : Store} {now : Timestamp}
    (hsaved : store.saveExecuted now record = (.ok true, saved))
    (operations : List StoreOperation) :
    let time := record.executedAt.getD now
    let (_, later) := performAll operations saved
    ((∃ found, later.loadRecord record.document = .ok (some found)) ↔ time.HasPlainYear) ∧
      (time.HasPlainYear →
        later.loadRecord record.document = .ok (some { record with executedAt := some time })) ∧
      (¬ time.HasPlainYear →
        later.loadRecord record.document = .error ⟨.persistence, AuditRow.timeFault⟩) ∧
      ∀ again other, other.document = record.document → other.executed = true →
        later.saveExecuted again other = (.ok false, later) := by
  intro time
  obtain ⟨hexecuted, rfl⟩ := Store.eq_written_of_saveExecuted hsaved
  have hrow : (store.written now record).audit.get? record.document.path =
      some (.ofRecord record now) := (store.get?_written now record _).trans (if_pos rfl)
  have hload := loadRecord_performAll_of_executed hrow rfl operations
  have hkept := (performAll_auditedOnce record.document operations _).kept hrow rfl
  generalize performAll operations (store.written now record) = outcome at hload hkept ⊢
  obtain ⟨events, later⟩ := outcome
  have hread (hyear : time.HasPlainYear) :
      later.loadRecord record.document = .ok (some { record with executedAt := some time }) := by
    rw [hload, store.loadRecord_written now record hyear, ← hexecuted]
  have hunread (hyear : ¬ time.HasPlainYear) :
      later.loadRecord record.document = .error ⟨.persistence, AuditRow.timeFault⟩ := by
    rw [hload, store.loadRecord_written_of_not_hasPlainYear now record hyear]
  refine ⟨⟨?found, fun hyear => ⟨_, hread hyear⟩⟩, hread, hunread, ?kept⟩
  case found =>
    rintro ⟨found, hfound⟩
    refine Classical.byContradiction fun hyear => ?_
    rw [hunread hyear] at hfound
    cases hfound
  case kept =>
    intro again other hdocument hother
    exact Store.saveExecuted_of_executed hother (hdocument ▸ hkept) rfl

/-- A record without a time that was saved in the last second of the year 9999 is read back after
the store was opened again. -/
theorem saved_record_reads_back_in_year_9999 :
    let now : Timestamp := ⟨⟨9999, 12, 31, by decide⟩, 23, 59, 59, 999999999, by decide⟩
    let record : AuditRecord :=
      ⟨⟨"Audit"⟩, true, some "job-1", none, [⟨"Migrated.ENG"⟩], "no list [", none⟩
    let store := Store.empty.withAuditRow ⟨"Audit"⟩
    let saved := store.written now record
    let (_, later) := performAll [.reopen, .createRecord ⟨"Audit"⟩] saved
    store.saveExecuted now record = (.ok true, saved) ∧ now.HasPlainYear ∧
      later.loadRecord ⟨"Audit"⟩ = .ok (some { record with executedAt := some now }) := by
  intro now record store saved
  have hsaved : store.saveExecuted now record = (.ok true, saved) := rfl
  have hyear : now.HasPlainYear := ⟨by decide, by decide⟩
  obtain ⟨-, hread, -⟩ :=
    saved_record_reads_back_iff record hsaved [.reopen, .createRecord ⟨"Audit"⟩]
  exact ⟨hsaved, hyear, hread hyear⟩

/-- A record of the first second of the year 10000 is saved, and is not read back. -/
theorem saved_record_is_unreadable_in_year_10000 :
    let time : Timestamp := ⟨⟨10000, 1, 1, by decide⟩, 0, 0, 0, 0, by decide⟩
    let record : AuditRecord :=
      ⟨⟨"Admin.Audit"⟩, true, some "job-1", some .success, [⟨"Migrated.ENG"⟩], "[]", some time⟩
    let (result, saved) :=
      (Store.empty.withAuditRow ⟨"Admin.Audit"⟩).saveExecuted .epoch record
    result = .ok true ∧
      saved.loadRecord ⟨"Admin.Audit"⟩ = .error ⟨.persistence, AuditRow.timeFault⟩ := by
  intro time record
  have hyear : ¬ time.HasPlainYear := fun h => absurd h.2 (by decide)
  exact ⟨rfl, Store.loadRecord_written_of_not_hasPlainYear .epoch record _ hyear⟩

end SpaceMigration
