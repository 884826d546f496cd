import SpaceMigration.Job.Run
import SpaceMigration.Proofs.AuditProgram
import SpaceMigration.Proofs.AuditRows
import SpaceMigration.Proofs.DocumentRows
import SpaceMigration.Proofs.Stateful
import SpaceMigration.Proofs.StoreImage
import SpaceMigration.Signal

/-!
# The life of a store

A store is worked on by a sequence of operations: rows are created, records and documents are saved,
signals are handled, whole jobs run into the store with a listener for their end, and the store is
closed and opened again. `StoreOperation.perform` says what each of them does, and keeps note of the
two things that are said about audit records: that a record was offered for saving, and that a
signal was handled.

A job has surroundings of its own, which may do anything; only what it saves reaches the store.

## Main definitions

* `Host.savingInto` — the surroundings of a job whose documents go into a store
* `AuditStore.observed` — an audit store that notes what it is offered
* `StoreOperation.perform`, `performAll` — one operation, and a sequence of them

## Main results

* `Host.Path.of_savingInto` — a store takes the documents of the saves that the host accepts
* `Store.handle_eq_record`, `StoreOperation.perform_runJob` — taking notes changes nothing
* `Store.handle_cases` — everything that handling a signal can do
-/

namespace SpaceMigration

open Stateful (exec exec_pure exec_bind exec_lift exec_modify)

/-! ### Jobs that save into a store -/

section

variable {m : Type → Type} [Monad m]

/-- The host that saves into a store. The given host is asked first and may refuse a document. -/
def Host.savingInto (host : Host m) : Host (StateT Store m) where
  clock := StateT.lift host.clock
  isCancelled := StateT.lift host.isCancelled
  list spaceKey := StateT.lift (host.list spaceKey)
  load spaceKey documentId := StateT.lift (host.load spaceKey documentId)
  convert o := StateT.lift (host.convert o)
  save d := do
    match ← StateT.lift (host.save d) with
    | .error e => return .error e
    | .ok () =>
      modify (Store.saveDocument d)
      return .ok ()

variable {σ : Type} [Stateful m σ]

/-- The document of a save that was not refused. -/
def Call.accepted? : Call → Option TargetDocument
  | .save document (.ok ()) => some document
  | _ => none

/-- An answer of a host that saves into a store is an answer of the host, and the store takes the
document of a save that the host accepts. -/
theorem Host.Answers.of_savingInto {host : Host m} {before after : Store × σ} {call : Call}
    (h : host.savingInto.Answers before call after) :
    after.1 = before.1.saveAll call.accepted?.toList ∧ host.Answers before.2 call after.2 := by
  have hlift {α : Type} {action : m α} {result : α}
      (h : exec (StateT.lift action : StateT Store m α) before = (result, after)) :
      after.1 = before.1 ∧ exec action before.2 = (result, after.2) := by
    rw [exec_lift] at h
    cases h
    exact ⟨rfl, rfl⟩
  cases call with
  | save d result =>
    change exec (StateT.lift (host.save d) >>= _) before = (result, after) at h
    change _ ∧ exec (host.save d) before.2 = (result, after.2)
    rw [exec_bind, exec_lift] at h
    cases hsave : exec (host.save d) before.2 with
    | mk answer world =>
      cases answer with
      | error e =>
        simp only [hsave, exec_pure] at h
        cases h
        exact ⟨rfl, rfl⟩
      | ok _ =>
        simp only [hsave, exec_bind, exec_modify, exec_pure] at h
        cases h
        exact ⟨rfl, rfl⟩
  | _ => exact hlift h

/-- A path of a host that saves into a store is a path of the host, and the store takes the
documents of the accepted saves. -/
theorem Host.Path.of_savingInto {host : Host m} {before after : Store × σ} {calls : List Call}
    (h : host.savingInto.Path before calls after) :
    after.1 = before.1.saveAll (calls.filterMap Call.accepted?) ∧
      host.Path before.2 calls after.2 := by
  induction h with
  | refl s => exact ⟨rfl, .refl _⟩
  | @call s t u call calls answer _ ih =>
    obtain ⟨hstore, answer⟩ := answer.of_savingInto
    obtain ⟨hrest, hpath⟩ := ih
    refine ⟨?_, .call answer hpath⟩
    rw [hrest, hstore, List.filterMap_cons]
    cases call.accepted? <;> rfl
  | @clock s u calls _ ih =>
    have hclock : exec host.savingInto.clock s =
        ((exec host.clock s.2).1, s.1, (exec host.clock s.2).2) :=
      exec_lift host.clock s.1 s.2
    rw [hclock] at ih
    exact ⟨ih.1, .clock ih.2⟩

/-- Whatever a job saves, it leaves the audit rows alone. -/
theorem Host.Path.audit_of_savingInto {host : Host m} {before after : Store × σ}
    {calls : List Call} (h : host.savingInto.Path before calls after) :
    after.1.audit = before.1.audit := by
  rw [h.of_savingInto.1, Store.audit_saveAll]

end

/-! ### Operations -/

/-- What is noted of the operations on a store. -/
inductive AuditEvent where
  /-- A record was offered for saving. -/
  | saved (record : AuditRecord) (result : Except MigrationError Bool)
  /-- A signal was handled. -/
  | handled (signal : JobFinished) (result : Except MigrationError Completion)

/-- The audit store that notes what it is offered for saving. -/
def AuditStore.observed {m : Type → Type} [Monad m] (audit : AuditStore m) :
    AuditStore (StateT (List AuditEvent) m) where
  load document := StateT.lift (audit.load document)
  saveExecuted record := do
    let result ← StateT.lift (audit.saveExecuted record)
    modify (· ++ [.saved record result])
    return result

/-- Handles a signal, and returns what is to be noted of it. -/
def Store.handle (now : Timestamp) (signal : JobFinished) (store : Store) :
    List AuditEvent × Store :=
  let ((result, events), store) :=
    ((recordCompletion (Store.asAuditStore now).observed now signal).run []).run store
  (events ++ [.handled signal result], store)

/-- Taking note of what a program asks for changes neither its result nor what it does. -/
theorem AuditProgram.map_fst_runIn_observed {m : Type → Type} [Monad m] [LawfulMonad m]
    (audit : AuditStore m) {α : Type} (program : AuditProgram α) (events : List AuditEvent) :
    Prod.fst <$> (program.runIn audit.observed).run events = program.runIn audit := by
  induction program generalizing events with
  | done a => exact map_pure _ _
  | load document next ih =>
    rw [runIn, runIn, StateT.run_bind, map_bind]
    refine (bind_assoc _ _ _).trans (bind_congr ?_)
    intro found
    rw [pure_bind]
    exact ih found events
  | save record next ih =>
    have hsave : (audit.observed.saveExecuted record).run events =
        audit.saveExecuted record >>= fun result =>
          pure (result, events ++ [.saved record result]) := by
      simp [AuditStore.observed]
    rw [runIn, runIn, StateT.run_bind, map_bind, hsave, bind_assoc]
    refine bind_congr ?_
    intro wrote
    rw [pure_bind]
    exact ih wrote _

/-- Handling a signal is recording it; the result is noted last. -/
theorem Store.handle_eq_record (now : Timestamp) (signal : JobFinished) (store : Store) :
    ∃ noted, store.handle now signal =
      (noted ++ [.handled signal (store.record now signal).1], (store.record now signal).2) := by
  have hrecord : Prod.fst <$>
      (recordCompletion (asAuditStore now).observed now signal).run [] =
        recordCompletion (asAuditStore now) now signal := by
    rw [← runIn_delivery, ← runIn_delivery]
    exact AuditProgram.map_fst_runIn_observed _ _ []
  rw [handle, record, ← hrecord]
  exact ⟨_, rfl⟩

/-- An operation on a store. -/
inductive StoreOperation : Type 1 where
  | createRecord (document : EntityReference)
  | saveExecuted (now : Timestamp) (record : AuditRecord)
  | saveDocument (document : TargetDocument)
  /-- The tables are created, as far as they are missing. -/
  | initDb
  /-- The store is closed and opened again. -/
  | reopen
  | handle (now : Timestamp) (signal : JobFinished)
  /-- A job runs into the store, with a listener that records its end. -/
  | runJob (job : MigrationJob) {σ : Type} (host : Host (StateM σ)) (world : σ) (now : Timestamp)

/-- What an operation does. The one signal of a job is handled when the job has ended
(`perform_runJob`). -/
def StoreOperation.perform : StoreOperation → Store → List AuditEvent × Store
  | createRecord document, store => ([], (store.createRecord document).2)
  | saveExecuted now record, store =>
    let (result, store) := store.saveExecuted now record
    ([.saved record result], store)
  | saveDocument document, store => ([], store.saveDocument document)
  | initDb, store => ([], store)
  | reopen, store => ([], (Store.ofImage store.image).toOption.getD .empty)
  | handle now signal, store => store.handle now signal
  | runJob job host world now, store =>
    let ((finished, store), _) := ((job.run host.savingInto).run store).run world
    store.handle now ⟨finished.jobType, finished⟩

/-- Performs operations one after another. -/
def performAll : List StoreOperation → Store → List AuditEvent × Store
  | [], store => ([], store)
  | operation :: rest, store =>
    let (events, store) := operation.perform store
    let (more, store) := performAll rest store
    (events ++ more, store)

theorem performAll_append (operations more : List StoreOperation) (store : Store) :
    performAll (operations ++ more) store =
      ((performAll operations store).1 ++ (performAll more (performAll operations store).2).1,
        (performAll more (performAll operations store).2).2) := by
  induction operations generalizing store with
  | nil => rfl
  | cons operation rest ih => simp [performAll, ih, List.append_assoc]

/-! ### What an operation can do

Every operation other than the two that save executed records leaves the executed rows alone, so
these two are described in full. -/

/-- Opening a store again finds what was there. -/
theorem StoreOperation.perform_reopen (store : Store) :
    StoreOperation.reopen.perform store = ([], store) := by
  rw [perform, store.ofImage_image]
  rfl

/-- A listener of one job handles the signal of its end, and reports the failure to do so. -/
theorem announce_eq {m : Type → Type} [Monad m] [LawfulMonad m] (store : AuditStore m)
    (clock : m Timestamp) (job : JobSnapshot) :
    announce store clock job = do
      let now ← clock
      let result ← recordCompletion store now ⟨job.jobType, job⟩
      return match result with
        | .ok _ => []
        | .error e => [e] := by
  change listen store clock [.message ⟨job.jobType, job⟩] = _
  rw [listen]
  refine bind_congr fun now => bind_congr fun result => ?_
  cases result with
  | ok completion => rfl
  | error e => simp [listen]

/-- The end of a job that ran into the store is recorded by a listener of its own. -/
theorem StoreOperation.perform_runJob (job : MigrationJob) {σ : Type} (host : Host (StateM σ))
    (world : σ) (now : Timestamp) (store : Store) :
    let ((finished, saved), _) := ((job.run host.savingInto).run store).run world
    ((runJob job host world now).perform store).2 =
      ((announce (Store.asAuditStore now) (pure now) finished).run saved).2 := by
  rw [perform]
  generalize ((job.run host.savingInto).run store).run world = outcome
  obtain ⟨⟨finished, saved⟩, world'⟩ := outcome
  obtain ⟨noted, hhandle⟩ := saved.handle_eq_record now ⟨finished.jobType, finished⟩
  simp only [hhandle, announce_eq, pure_bind]
  rfl

theorem Completion.judge_ne_recorded (existing record : AuditRecord) :
    judge existing record ≠ .ok .recorded := by
  simp [judge_eq_ok_iff]

theorem Completion.precheck_ne_recorded {signal : JobFinished}
    {verdict : Except MigrationError Completion} (h : precheck signal = some verdict) :
    verdict ≠ .ok .recorded := by
  obtain ⟨-, hpre⟩ | ⟨-, ⟨-, e, hpre⟩ | ⟨-, hpre⟩⟩ := precheck_cases signal
  · obtain rfl := Option.some.inj (h.symm.trans hpre)
    simp
  · obtain rfl := Option.some.inj (h.symm.trans hpre)
    simp
  · rw [hpre] at h
    cases h

theorem Store.run_observed_load (now : Timestamp) (document : EntityReference)
    (events : List AuditEvent) (store : Store) :
    (((asAuditStore now).observed.load document).run events).run store =
      pure ((store.loadRecord document, events), store) :=
  rfl

theorem Store.run_observed_save (now : Timestamp) (record : AuditRecord)
    (events : List AuditEvent) (store : Store) :
    (((asAuditStore now).observed.saveExecuted record).run events).run store =
      pure (((store.saveExecuted now record).1,
        events ++ [.saved record (store.saveExecuted now record).1]),
        (store.saveExecuted now record).2) :=
  rfl

/-- A signal is handled without a save, and then not recorded, or with one save, which decides
whether it is. -/
theorem Store.handle_cases (now : Timestamp) (signal : JobFinished) (store : Store) :
    (∃ result, result ≠ .ok .recorded ∧
        store.handle now signal = ([.handled signal result], store)) ∨
      ∃ saved result store',
        store.saveExecuted now (.ofSnapshot signal.job now) = (saved, store') ∧
        (result = .ok .recorded ↔ saved = .ok true) ∧
        store.handle now signal =
          ([.saved (.ofSnapshot signal.job now) saved, .handled signal result], store') := by
  rw [handle, recordCompletion]
  cases hpre : Completion.precheck signal with
  | some verdict => exact .inl ⟨verdict, Completion.precheck_ne_recorded hpre, rfl⟩
  | none =>
    simp only [StateT.run_bind, run_observed_load, pure_bind]
    cases hload : store.loadRecord signal.job.request.auditDocument with
    | error e => exact .inl ⟨_, by simp, rfl⟩
    | ok found =>
      cases found with
      | none => exact .inl ⟨_, by simp, rfl⟩
      | some existing =>
        cases hexecuted : existing.executed with
        | true =>
          refine .inl ⟨_, Completion.judge_ne_recorded existing (.ofSnapshot signal.job now), ?_⟩
          simp only [hexecuted, ↓reduceIte]
          rfl
        | false =>
          refine .inr ?_
          simp only [hexecuted, Bool.false_eq_true, ↓reduceIte, StateT.run_bind, run_observed_save,
            pure_bind]
          generalize store.saveExecuted now (.ofSnapshot signal.job now) = outcome
          obtain ⟨saved, store'⟩ := outcome
          cases saved with
          | error e => exact ⟨_, _, _, rfl, by simp, rfl⟩
          | ok wrote =>
            cases wrote with
            | true => exact ⟨_, _, _, rfl, by simp, rfl⟩
            | false =>
              simp only [StateT.run_bind, run_observed_load, pure_bind]
              cases store'.loadRecord signal.job.request.auditDocument with
              | error e => exact ⟨_, _, _, rfl, by simp, rfl⟩
              | ok found =>
                cases found with
                | none => exact ⟨_, _, _, rfl, by simp, rfl⟩
                | some current =>
                  exact ⟨_, _, _, rfl, by simp [Completion.judge_ne_recorded], rfl⟩

end SpaceMigration
