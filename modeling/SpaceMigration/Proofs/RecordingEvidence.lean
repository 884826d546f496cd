import SpaceMigration.Audit.Script
import SpaceMigration.Proofs.Deliveries

/-!
# What the result of recording a signal rests on

An audit store may answer anything: a record that is gone at the second look, a refused save over a
record that still waits, an error at any step. `AuditStore.traced` keeps the calls that were made
with their answers, and the result of recording a signal is accounted for by these calls, whatever
the store.

A trace belongs to a program of audit steps, not to a store: `AuditProgram.Ends` says that a program
ends in a value after calls with the given answers, and a run in any store is one such end
(`AuditProgram.run_traced`). The ways through a recording are then a short list
(`WaitingTranscript`), from which each clause of `recording_rests_on_calls` is read.

## Main definitions

* `AuditCall`, `AuditStore.traced` — calls to an audit store, and a store that keeps them
* `AuditProgram.Ends` — the end of a program after calls with given answers
* `WaitingTranscript` — the ways through the recording of a migration that has ended

## Main results

* `AuditProgram.run_traced` — the trace of a run is a way through its program
* `recording_rests_on_calls` — nothing is saved, reported or concealed without evidence
-/

namespace SpaceMigration

open Completion

/-! ### Calls to an audit store -/

/-- A call to an audit store, with its result. -/
inductive AuditCall where
  | load (document : EntityReference) (result : Except MigrationError (Option AuditRecord))
  | save (record : AuditRecord) (result : Except MigrationError Bool)

namespace AuditCall

/-- The call offers a record for saving. -/
def isSave : AuditCall → Bool
  | load _ _ => false
  | save _ _ => true

/-- The call was answered with an error. -/
def failed : AuditCall → Bool
  | load _ (.error _) => true
  | save _ (.error _) => true
  | _ => false

end AuditCall

section Traced

variable {m : Type → Type} [Monad m]

/-- A step of an audit store whose result is appended to the trace as a call. -/
def tracedStep {α : Type} (call : α → AuditCall) (action : m α) :
    StateT (List AuditCall) m α := do
  let result ← StateT.lift action
  modify (· ++ [call result])
  return result

/-- The audit store with a trace of its calls. -/
def AuditStore.traced (store : AuditStore m) : AuditStore (StateT (List AuditCall) m) where
  load document := tracedStep (.load document) (store.load document)
  saveExecuted record := tracedStep (.save record) (store.saveExecuted record)

end Traced

/-! ### The calls of a program -/

namespace AuditProgram

/-- The program ends in the value when its steps, which are the calls, are answered as they say. -/
inductive Ends {α : Type} : AuditProgram α → List AuditCall → α → Prop
  | done (a : α) : Ends (.done a) [] a
  | load {document next found calls a} (h : Ends (next found) calls a) :
      Ends (.load document next) (.load document found :: calls) a
  | save {record next wrote calls a} (h : Ends (next wrote) calls a) :
      Ends (.save record next) (.save record wrote :: calls) a

namespace Ends

variable {α : Type} {calls : List AuditCall} {a : α}

theorem of_done {b : α} (h : (AuditProgram.done b).Ends calls a) : calls = [] ∧ a = b := by
  cases h
  exact ⟨rfl, rfl⟩

theorem of_load {document : EntityReference}
    {next : Except MigrationError (Option AuditRecord) → AuditProgram α}
    (h : (AuditProgram.load document next).Ends calls a) :
    ∃ found rest, calls = .load document found :: rest ∧ (next found).Ends rest a := by
  cases h with
  | load h => exact ⟨_, _, rfl, h⟩

theorem of_save {record : AuditRecord} {next : Except MigrationError Bool → AuditProgram α}
    (h : (AuditProgram.save record next).Ends calls a) :
    ∃ wrote rest, calls = .save record wrote :: rest ∧ (next wrote).Ends rest a := by
  cases h with
  | save h => exact ⟨_, _, rfl, h⟩

end Ends

/-- **The trace of a run is a way through its program.** The trace changes neither the result nor
the state of the store. -/
theorem run_traced {α σ : Type} (store : AuditStore (StateM σ)) (program : AuditProgram α)
    (before : List AuditCall) (s : σ) :
    ∃ calls a t, ((program.runIn store.traced).run before).run s = ((a, before ++ calls), t) ∧
      (program.runIn store).run s = (a, t) ∧ program.Ends calls a := by
  induction program generalizing before s with
  | done a => exact ⟨[], a, s, by rw [List.append_nil]; rfl, rfl, .done a⟩
  | load document next ih =>
    obtain ⟨calls, a, t, htraced, hrun, hends⟩ :=
      ih (store.load document s).1 (before ++ [.load document (store.load document s).1])
        (store.load document s).2
    rw [List.append_assoc] at htraced
    exact ⟨_, a, t, htraced, hrun, .load hends⟩
  | save record next ih =>
    obtain ⟨calls, a, t, htraced, hrun, hends⟩ :=
      ih (store.saveExecuted record s).1 (before ++ [.save record (store.saveExecuted record s).1])
        (store.saveExecuted record s).2
    rw [List.append_assoc] at htraced
    exact ⟨_, a, t, htraced, hrun, .save hends⟩

end AuditProgram

/-! ### The ways through a recording -/

/-- A record with the content of an executed one is executed. -/
theorem AuditRecord.executed_of_sameContent {a b : AuditRecord} (h : a.sameContent b = true) :
    a.executed = b.executed := by
  rw [sameContent, decide_eq_true_iff] at h
  exact (AuditRecord.mk.inj h).2.1

/-- The calls of a recording that is not turned away, and the result they lead to. -/
inductive WaitingTranscript (record : AuditRecord) :
    List AuditCall → Except MigrationError Completion → Prop
  | notLoaded (e : MigrationError) :
      WaitingTranscript record [.load record.document (.error e)]
        (.error (loadFailed record.document e))
  | missing :
      WaitingTranscript record [.load record.document (.ok none)]
        (.error (noDocument record.document))
  | executed {existing : AuditRecord} (h : existing.executed = true) :
      WaitingTranscript record [.load record.document (.ok (some existing))]
        (judge existing record)
  | notSaved {existing : AuditRecord} (h : existing.executed = false) (e : MigrationError) :
      WaitingTranscript record
        [.load record.document (.ok (some existing)), .save record (.error e)]
        (.error (saveFailed record.document e))
  | written {existing : AuditRecord} (h : existing.executed = false) :
      WaitingTranscript record
        [.load record.document (.ok (some existing)), .save record (.ok true)] (.ok .recorded)
  | lost {existing : AuditRecord} (h : existing.executed = false)
      (found : Except MigrationError (Option AuditRecord)) :
      WaitingTranscript record
        [.load record.document (.ok (some existing)), .save record (.ok false),
          .load record.document found] (settle record found)

theorem waiting_transcript {record : AuditRecord} {calls : List AuditCall}
    {result : Except MigrationError Completion} (h : (waiting record).Ends calls result) :
    WaitingTranscript record calls result := by
  obtain ⟨found, rest, rfl, hfound⟩ := h.of_load
  rcases found with e | _ | existing
  · obtain ⟨rfl, rfl⟩ := hfound.of_done
    exact .notLoaded e
  · obtain ⟨rfl, rfl⟩ := hfound.of_done
    exact .missing
  · -- The answer is known, so the first stage has come down to its last test.
    change (if existing.executed = true then _ else _ : AuditProgram _).Ends rest result at hfound
    split at hfound
    · next hexecuted =>
      obtain ⟨rfl, rfl⟩ := hfound.of_done
      exact .executed hexecuted
    · next hexecuted =>
      have hunexecuted : existing.executed = false := Bool.eq_false_iff.2 hexecuted
      obtain ⟨wrote, later, rfl, hwrote⟩ := hfound.of_save
      rcases wrote with e | _ | _
      · obtain ⟨rfl, rfl⟩ := hwrote.of_done
        exact .notSaved hunexecuted e
      · obtain ⟨current, last, rfl, hcurrent⟩ := hwrote.of_load
        obtain ⟨rfl, rfl⟩ := hcurrent.of_done
        exact .lost hunexecuted current
      · obtain ⟨rfl, rfl⟩ := hwrote.of_done
        exact .written hunexecuted

/-! ### What the calls of a recording say -/

namespace WaitingTranscript

variable {record : AuditRecord} {calls : List AuditCall} {result : Except MigrationError Completion}

theorem countP_isSave_le (h : WaitingTranscript record calls result) :
    calls.countP (·.isSave) ≤ 1 := by
  cases h <;> simp [AuditCall.isSave]

theorem document_of_load (h : WaitingTranscript record calls result) {document : EntityReference}
    {found : Except MigrationError (Option AuditRecord)} (hload : .load document found ∈ calls) :
    document = record.document := by
  cases h with
  | notLoaded | missing | executed | notSaved | written =>
    simp only [List.mem_cons, AuditCall.load.injEq, reduceCtorEq, List.not_mem_nil, or_false]
      at hload
    exact hload.1
  | lost =>
    simp only [List.mem_cons, AuditCall.load.injEq, reduceCtorEq, List.not_mem_nil, or_false,
      false_or] at hload
    rcases hload with hfirst | hsecond
    · exact hfirst.1
    · exact hsecond.1

/-- What is offered for saving is the record, right after an unexecuted record was found. -/
theorem of_save (h : WaitingTranscript record calls result) {saved : AuditRecord}
    {wrote : Except MigrationError Bool} (hsave : .save saved wrote ∈ calls) :
    saved = record ∧ ∃ existing later, existing.executed = false ∧
      calls = .load record.document (.ok (some existing)) :: .save saved wrote :: later := by
  cases h with
  | notLoaded | missing | executed => simp at hsave
  | notSaved h | written h | lost h =>
    simp only [List.mem_cons, reduceCtorEq, AuditCall.save.injEq, List.not_mem_nil, or_false,
      false_or] at hsave
    obtain ⟨rfl, rfl⟩ := hsave
    exact ⟨rfl, _, _, h, rfl⟩

theorem eq_recorded_iff (h : WaitingTranscript record calls result) :
    result = .ok .recorded ↔ .save record (.ok true) ∈ calls := by
  cases h <;> simp [judge_eq_ok_iff, settle_eq_ok_iff]

theorem ne_ignored (h : WaitingTranscript record calls result) : result ≠ .ok .ignored := by
  cases h <;> simp [judge_eq_ok_iff, settle_eq_ok_iff]

theorem of_alreadyRecorded (h : WaitingTranscript record calls result)
    (hresult : result = .ok .alreadyRecorded) :
    ∃ existing, .load record.document (.ok (some existing)) ∈ calls ∧
      existing.sameContent record = true := by
  cases h with
  | notLoaded | missing | notSaved | written => simp at hresult
  | executed h =>
    exact ⟨_, List.mem_cons_self .., (judge_eq_ok_iff.1 hresult).2⟩
  | lost h found =>
    obtain ⟨-, current, rfl, hsame⟩ := settle_eq_ok_iff.1 hresult
    exact ⟨current, by simp, hsame⟩

/-- No failure of the store is swallowed. -/
theorem error_of_failed (h : WaitingTranscript record calls result) {call : AuditCall}
    (hcall : call ∈ calls) (hfailed : call.failed = true) : ∃ e, result = .error e := by
  cases h with
  | notLoaded | missing | notSaved => exact ⟨_, rfl⟩
  | executed h =>
    obtain rfl := List.mem_singleton.1 hcall
    cases hfailed
  | written h =>
    simp only [List.mem_cons, List.not_mem_nil, or_false] at hcall
    rcases hcall with rfl | rfl <;> cases hfailed
  | lost h found =>
    rcases found with e | _ | current
    · exact ⟨e, rfl⟩
    · exact ⟨_, rfl⟩
    · simp only [List.mem_cons, List.not_mem_nil, or_false] at hcall
      rcases hcall with rfl | rfl | rfl <;> cases hfailed

end WaitingTranscript

/-- **What recording a signal rests on**, whatever the store answers. At most one record is offered
for saving; it is the record of the signal, the signal is the end of a migration, and the call
follows a load that found an unexecuted record. The signal is reported as recorded exactly if that
save wrote, as recorded before only if a load found an executed record of the same content, and no
call that failed is passed over. -/
theorem recording_rests_on_calls {σ : Type} (store : AuditStore (StateM σ)) (now : Timestamp)
    (signal : JobFinished) (s : σ) :
    let record := AuditRecord.ofSnapshot signal.job now
    let ((result, calls), after) := ((recordCompletion store.traced now signal).run []).run s
    (recordCompletion store now signal).run s = (result, after) ∧
      calls.countP (·.isSave) ≤ 1 ∧
      (∀ document found, .load document found ∈ calls → document = record.document) ∧
      (∀ saved wrote, .save saved wrote ∈ calls →
        saved = record ∧ signal.jobType = migrationJobType ∧
          signal.job.state.isTerminal = true ∧
          ∃ existing later, existing.executed = false ∧
            calls = .load record.document (.ok (some existing)) :: .save saved wrote :: later) ∧
      (result = .ok .ignored ↔ signal.jobType ≠ migrationJobType) ∧
      (result = .ok .recorded ↔ .save record (.ok true) ∈ calls) ∧
      (result = .ok .alreadyRecorded →
        ∃ existing, .load record.document (.ok (some existing)) ∈ calls ∧
          existing.executed = true ∧ existing.sameContent record = true) ∧
      ((∃ call ∈ calls, call.failed = true) → ∃ e, result = .error e) := by
  intro record
  obtain ⟨calls, result, after, htraced, hrun, hends⟩ :=
    (delivery now signal).run_traced store [] s
  rw [runIn_delivery, List.nil_append] at htraced
  rw [runIn_delivery] at hrun
  rw [htraced]
  refine ⟨hrun, ?_⟩
  obtain ⟨htype, hpre⟩ | ⟨htype, ⟨-, e, hpre⟩ | ⟨hstate, hpre⟩⟩ := precheck_cases signal
  · rw [delivery_eq_done hpre] at hends
    obtain ⟨rfl, rfl⟩ := hends.of_done
    simp [htype]
  · rw [delivery_eq_done hpre] at hends
    obtain ⟨rfl, rfl⟩ := hends.of_done
    simp [htype]
  · rw [delivery_eq_waiting hpre] at hends
    have h := waiting_transcript hends
    refine ⟨h.countP_isSave_le, fun _ _ => h.document_of_load, ?saved, ?ignored,
      h.eq_recorded_iff, ?repeated, fun ⟨_, hcall, hfailed⟩ => h.error_of_failed hcall hfailed⟩
    case saved =>
      intro saved wrote hsave
      obtain ⟨hsaved, hfound⟩ := h.of_save hsave
      exact ⟨hsaved, htype, hstate, hfound⟩
    case ignored =>
      exact iff_of_false h.ne_ignored (not_not_intro htype)
    case repeated =>
      intro hresult
      obtain ⟨existing, hload, hsame⟩ := h.of_alreadyRecorded hresult
      exact ⟨existing, hload, AuditRecord.executed_of_sameContent hsame, hsame⟩

/-- The store refuses the save of a record that waited: once it is executed at the second look, with
the content of the signal, and once the second look fails. -/
theorem recording_rests_on_calls_of_lost_saves :
    let signal := Race.emptySignal "job-1"
    let waits := AuditRecord.unexecuted ⟨"Audit"⟩
    let record := AuditRecord.ofSnapshot signal.job .epoch
    let stored := { record with executedAt := none }
    let e : MigrationError := ⟨.database, "the disk is full"⟩
    let repeated : AuditScript := ⟨[.ok (some waits), .ok (some stored)], [.ok false], []⟩
    let failing : AuditScript := ⟨[.ok (some waits), .error e], [.ok false], []⟩
    let recording := (recordCompletion AuditScript.asAuditStore.traced .epoch signal).run []
    let ((result, calls), _) := recording.run repeated
    let ((failure, later), _) := recording.run failing
    (.save record (.ok false) ∈ calls ∧ signal.jobType = migrationJobType ∧
        signal.job.state.isTerminal = true) ∧
      (result = .ok .alreadyRecorded ∧
        ∃ existing, .load ⟨"Audit"⟩ (.ok (some existing)) ∈ calls ∧
          existing.executed = true ∧ existing.sameContent record = true) ∧
      .load ⟨"Audit"⟩ (.error e) ∈ later ∧ ∃ e, failure = .error e := by
  intro signal waits record stored e repeated failing
  obtain ⟨-, -, -, hsave, -, -, hrepeated, -⟩ :=
    recording_rests_on_calls AuditScript.asAuditStore .epoch signal repeated
  obtain ⟨-, -, -, -, -, -, -, hfailed⟩ :=
    recording_rests_on_calls AuditScript.asAuditStore .epoch signal failing
  have hoffered : AuditCall.save record (.ok false) ∈
      [.load ⟨"Audit"⟩ (.ok (some waits)), .save record (.ok false),
        .load ⟨"Audit"⟩ (.ok (some stored))] := by simp
  have hlast : AuditCall.load ⟨"Audit"⟩ (.error e) ∈
      [.load ⟨"Audit"⟩ (.ok (some waits)), .save record (.ok false),
        .load ⟨"Audit"⟩ (.error e)] := by simp
  obtain ⟨-, htype, hstate, -⟩ := hsave record (.ok false) hoffered
  exact ⟨⟨hoffered, htype, hstate⟩, ⟨rfl, hrepeated rfl⟩, hlast, hfailed ⟨_, hlast, rfl⟩⟩

end SpaceMigration
