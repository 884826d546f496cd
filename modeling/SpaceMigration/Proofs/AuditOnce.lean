import SpaceMigration.Proofs.StoreHistory
import SpaceMigration.Proofs.Transcript

/-!
# An audit record is written once

The row of an audit document is executed by the first record that is saved over it, and stays as it
is from then on. This is a fact about whole histories of a store: it is proved of each operation, in
the form that survives composition (`AuditedOnce`), and then of every sequence of operations.

## Main results

* `performAll_auditedOnce` — any operations on any store
* `audit_exactly_once` — at most one effective save, at most one recorded signal, and a final row
-/

namespace SpaceMigration

/-- The event wrote the record of the document. -/
def AuditEvent.writes (document : EntityReference) : AuditEvent → Bool
  | .saved record (.ok true) => record.document = document
  | _ => false

/-- The event recorded a signal in the document. -/
def AuditEvent.records (document : EntityReference) : AuditEvent → Bool
  | .handled signal (.ok .recorded) => signal.job.request.auditDocument = document
  | _ => false

/-- Whether the row of the document is executed. -/
def Store.isExecuted (store : Store) (document : EntityReference) : Bool :=
  (store.audit.get? document.path).any (·.executed)

/-- Between the two stores, the events wrote the record of the document as often as its row became
executed, recorded no signal without writing, and left an executed row alone. -/
structure AuditedOnce (document : EntityReference) (before : Store) (events : List AuditEvent)
    (after : Store) : Prop where
  written : events.countP (·.writes document) + (before.isExecuted document).toNat =
    (after.isExecuted document).toNat
  recorded : events.countP (·.records document) ≤ events.countP (·.writes document)
  kept {row : AuditRow} : before.audit.get? document.path = some row → row.executed = true →
    after.audit.get? document.path = some row

namespace AuditedOnce

variable {document : EntityReference} {before middle after : Store} {events more : List AuditEvent}

theorem trans (h : AuditedOnce document before events middle)
    (h' : AuditedOnce document middle more after) :
    AuditedOnce document before (events ++ more) after where
  written := by
    have hfirst := h.written
    have hsecond := h'.written
    rw [List.countP_append]
    omega
  recorded := by
    have hfirst := h.recorded
    have hsecond := h'.recorded
    rw [List.countP_append, List.countP_append]
    omega
  kept hrow hexecuted := h'.kept (h.kept hrow hexecuted) hexecuted

/-- Whatever neither writes nor records, and leaves the row of the document alone. -/
theorem of_get?_eq
    (hrow : after.audit.get? document.path = before.audit.get? document.path)
    (hwrites : ∀ event ∈ events, event.writes document = false)
    (hrecords : ∀ event ∈ events, event.records document = false) :
    AuditedOnce document before events after where
  written := by
    rw [List.countP_eq_zero.2 (by simpa using hwrites), Store.isExecuted, Store.isExecuted, hrow,
      Nat.zero_add]
  recorded := by
    rw [List.countP_eq_zero.2 (by simpa using hrecords)]
    exact Nat.zero_le _
  kept := by
    intro row hbefore _
    rwa [hrow]

end AuditedOnce

/-! ### One operation -/

theorem Store.withAuditRow_auditedOnce (document created : EntityReference) (store : Store) :
    AuditedOnce document store [] (store.withAuditRow created) where
  written := by
    rw [isExecuted, isExecuted, get?_withAuditRow]
    cases store.audit.get? document.path with
    | some row => simp
    | none => split <;> simp [AuditRow.unexecuted]
  recorded := Nat.le_refl _
  kept hrow _ := by rw [get?_withAuditRow, hrow, Option.some_or]

theorem Store.saveExecuted_auditedOnce (document : EntityReference) (now : Timestamp)
    (record : AuditRecord) (store : Store) :
    AuditedOnce document store [.saved record (store.saveExecuted now record).1]
      (store.saveExecuted now record).2 := by
  obtain ⟨e, h⟩ | ⟨row, hrow, ⟨-, h⟩ | ⟨hunexecuted, h⟩⟩ := store.saveExecuted_cases now record
  · rw [h]
    exact .of_get?_eq rfl (by simp [AuditEvent.writes]) (by simp [AuditEvent.records])
  · rw [h]
    exact .of_get?_eq rfl (by simp [AuditEvent.writes]) (by simp [AuditEvent.records])
  · rw [h]
    by_cases hsame : record.document = document
    · subst hsame
      refine ⟨?_, by simp [AuditEvent.records], fun hget hexecuted => ?_⟩
      · simp [AuditEvent.writes, isExecuted, hrow, hunexecuted, get?_written, AuditRow.ofRecord]
      · rw [hrow] at hget
        cases hget
        rw [hunexecuted] at hexecuted
        cases hexecuted
    · have hpath : document.path ≠ record.document.path := by
        intro hpath
        exact hsame (congrArg EntityReference.mk hpath).symm
      refine .of_get?_eq ?_ (by simp [AuditEvent.writes, hsame]) (by simp [AuditEvent.records])
      rw [get?_written, if_neg hpath]

/-- A signal that is recorded was written just before. -/
theorem Store.handle_auditedOnce (document : EntityReference) (now : Timestamp)
    (signal : JobFinished) (store : Store) :
    AuditedOnce document store (store.handle now signal).1 (store.handle now signal).2 := by
  obtain ⟨result, hresult, h⟩ | ⟨saved, result, store', hsaved, hresult, h⟩ :=
    store.handle_cases now signal
  · rw [h]
    exact .of_get?_eq rfl (by simp [AuditEvent.writes]) (by simp [AuditEvent.records, hresult])
  · have hsave := store.saveExecuted_auditedOnce document now (.ofSnapshot signal.job now)
    rw [hsaved] at hsave
    rw [h]
    refine ⟨?_, ?_, hsave.kept⟩
    · rw [← hsave.written]
      simp [List.countP_cons, AuditEvent.writes]
    · by_cases hrecorded : result = .ok .recorded
      · rw [hrecorded, hresult.1 hrecorded]
        simp [List.countP_cons, AuditEvent.records, AuditEvent.writes, AuditRecord.ofSnapshot]
      · simp [List.countP_cons, AuditEvent.records, hrecorded]

theorem StoreOperation.auditedOnce (document : EntityReference) (operation : StoreOperation)
    (store : Store) :
    AuditedOnce document store (operation.perform store).1 (operation.perform store).2 := by
  cases operation with
  | createRecord created =>
    rw [perform, Store.createRecord_snd]
    exact store.withAuditRow_auditedOnce document created
  | saveExecuted now record => exact store.saveExecuted_auditedOnce document now record
  | saveDocument saved => exact .of_get?_eq rfl (by simp [perform]) (by simp [perform])
  | initDb => exact .of_get?_eq rfl (by simp [perform]) (by simp [perform])
  | reopen =>
    rw [perform_reopen]
    exact .of_get?_eq rfl (by simp) (by simp)
  | handle now signal => exact store.handle_auditedOnce document now signal
  | runJob job host world now =>
    obtain ⟨calls, hpath, -⟩ := job.run_transcript host.savingInto (store, world, ())
    have haudit := hpath.audit_of_savingInto
    change (((job.run host.savingInto).run store).run world).1.2.audit = store.audit at haudit
    rw [perform]
    generalize ((job.run host.savingInto).run store).run world = outcome at haudit
    obtain ⟨⟨finished, store'⟩, world'⟩ := outcome
    have hjob : AuditedOnce document store [] store' :=
      .of_get?_eq (by rw [haudit]) (by simp) (by simp)
    exact hjob.trans (store'.handle_auditedOnce document now ⟨finished.jobType, finished⟩)

/-! ### Every history -/

theorem performAll_auditedOnce (document : EntityReference) (operations : List StoreOperation)
    (store : Store) :
    AuditedOnce document store (performAll operations store).1 (performAll operations store).2 := by
  induction operations generalizing store with
  | nil => exact .of_get?_eq rfl (by simp [performAll]) (by simp [performAll])
  | cons operation rest ih => exact (operation.auditedOnce document store).trans (ih _)

/-- What a load finds in an executed row, it finds for as long as the store lives. -/
theorem loadRecord_performAll_of_executed {store : Store} {document : EntityReference}
    {row : AuditRow} (hrow : store.audit.get? document.path = some row)
    (hexecuted : row.executed = true) (operations : List StoreOperation) :
    (performAll operations store).2.loadRecord document = store.loadRecord document := by
  have hkept := (performAll_auditedOnce document operations store).kept hrow hexecuted
  exact Store.loadRecord_congr (hkept.trans hrow.symm)

/-- **An audit record is written exactly once.** In every history of a store and for every audit
document, at most one save takes effect, exactly one if the row of the document is executed in the
end, and at most one signal is recorded. Once the row is executed, it is the same row to the end of
the history. -/
theorem audit_exactly_once (operations : List StoreOperation) (document : EntityReference) :
    let (events, store) := performAll operations .empty
    events.countP (·.writes document) ≤ 1 ∧
      (store.isExecuted document = true ↔ events.countP (·.writes document) = 1) ∧
      events.countP (·.records document) ≤ 1 ∧
      ∀ (before after : List StoreOperation) (row : AuditRow), operations = before ++ after →
        (performAll before .empty).2.audit.get? document.path = some row →
        row.executed = true → store.audit.get? document.path = some row := by
  have h := performAll_auditedOnce document operations .empty
  have hwritten : (performAll operations .empty).1.countP (·.writes document) =
      ((performAll operations .empty).2.isExecuted document).toNat := h.written
  have hrecorded := h.recorded
  have hexecuted := Bool.toNat_le ((performAll operations .empty).2.isExecuted document)
  refine ⟨by omega, ?_, by omega, ?_⟩
  · rw [hwritten, Bool.toNat_eq_one]
  · intro before after row hsplit hrow hexecuted
    rw [hsplit, performAll_append]
    exact (performAll_auditedOnce document after _).kept hrow hexecuted

end SpaceMigration
