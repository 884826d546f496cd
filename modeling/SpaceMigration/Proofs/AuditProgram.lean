import SpaceMigration.Audit.Completion

/-!
# Recording a signal, step by step

Recording a signal asks the audit store for up to three steps, and other deliveries may come between
them. An `AuditProgram` is what is still to be done: the next step, and how to go on with its
answer.

Programs are a monad and have an audit store of their own, so the program of a delivery is
`recordCompletion` as it stands. Run in any other store it is `recordCompletion` there
(`runIn_delivery`), and its four stages are `waiting`, `saving`, `reloading` and the end.

## Main definitions

* `AuditProgram`, `AuditProgram.auditStore`, `AuditProgram.runIn`
* `delivery` — the program of recording a signal
* `waiting`, `saving`, `reloading` — the programs that a delivery goes through
* `AuditProgram.EndsWithin` — a bound on the steps of a program

## Main results

* `runIn_delivery` — the program of a delivery is its recording, in every audit store
* `delivery_endsWithin` — a delivery takes three steps at most
-/

namespace SpaceMigration

/-- What is still to be asked of an audit store, up to a result. -/
inductive AuditProgram (α : Type) where
  | done (a : α)
  | load (document : EntityReference)
      (next : Except MigrationError (Option AuditRecord) → AuditProgram α)
  | save (record : AuditRecord) (next : Except MigrationError Bool → AuditProgram α)

namespace AuditProgram

variable {α β : Type}

/-- A program followed by another. -/
def bind : AuditProgram α → (α → AuditProgram β) → AuditProgram β
  | done a, f => f a
  | load document next, f => load document fun found => (next found).bind f
  | save record next, f => save record fun wrote => (next wrote).bind f

instance : Monad AuditProgram where
  pure := done
  bind := bind

/-- The audit store whose steps are programs of one step. -/
def auditStore : AuditStore AuditProgram where
  load document := load document done
  saveExecuted record := save record done

variable {m : Type → Type} [Monad m]

/-- Runs a program to its end in an audit store. -/
def runIn (store : AuditStore m) : AuditProgram α → m α
  | done a => pure a
  | load document next => store.load document >>= fun found => (next found).runIn store
  | save record next => store.saveExecuted record >>= fun wrote => (next wrote).runIn store

@[simp] theorem runIn_pure (store : AuditStore m) (a : α) :
    runIn store (pure a : AuditProgram α) = pure a := rfl

@[simp] theorem runIn_bind [LawfulMonad m] (store : AuditStore m) (program : AuditProgram α)
    (f : α → AuditProgram β) :
    runIn store (program >>= f) = runIn store program >>= fun a => runIn store (f a) := by
  induction program with
  | done a =>
    rw [runIn, pure_bind]
    rfl
  | load document next ih =>
    rw [runIn, bind_assoc]
    exact bind_congr ih
  | save record next ih =>
    rw [runIn, bind_assoc]
    exact bind_congr ih

@[simp] theorem runIn_load [LawfulMonad m] (store : AuditStore m) (document : EntityReference) :
    runIn store (auditStore.load document) = store.load document :=
  bind_pure _

@[simp] theorem runIn_save [LawfulMonad m] (store : AuditStore m) (record : AuditRecord) :
    runIn store (auditStore.saveExecuted record) = store.saveExecuted record :=
  bind_pure _

end AuditProgram

/-! ### The program of a delivery -/

open Completion

/-- The program of recording a signal. -/
def delivery (now : Timestamp) (signal : JobFinished) :
    AuditProgram (Except MigrationError Completion) :=
  recordCompletion AuditProgram.auditStore now signal

/-- **The program of a delivery is its recording**, in every audit store. -/
theorem runIn_delivery {m : Type → Type} [Monad m] [LawfulMonad m] (store : AuditStore m)
    (now : Timestamp) (signal : JobFinished) :
    (delivery now signal).runIn store = recordCompletion store now signal := by
  rw [delivery, recordCompletion, recordCompletion]
  cases precheck signal with
  | some verdict => rfl
  | none =>
    simp only [AuditProgram.runIn_bind, AuditProgram.runIn_load]
    refine bind_congr ?_
    rintro (e | _ | existing)
    · rfl
    · rfl
    · cases hexecuted : existing.executed with
      | true => simp [hexecuted]
      | false =>
        simp only [hexecuted, Bool.false_eq_true, ↓reduceIte, AuditProgram.runIn_bind,
          AuditProgram.runIn_save]
        refine bind_congr ?_
        rintro (e | _ | _)
        · rfl
        · simp only [AuditProgram.runIn_bind, AuditProgram.runIn_load]
          refine bind_congr ?_
          rintro (e | _ | current) <;> rfl
        · rfl

/-- The end of a migration is not turned away. -/
theorem Completion.precheck_eq_none {signal : JobFinished}
    (htype : signal.jobType = migrationJobType) (hstate : signal.job.state.isTerminal = true) :
    precheck signal = none := by
  simp [precheck, htype, hstate]

/-- The signal of another job is ignored, that of a job which goes on is refused, and the end of a
migration is not turned away. -/
theorem Completion.precheck_cases (signal : JobFinished) :
    (signal.jobType ≠ migrationJobType ∧ precheck signal = some (.ok .ignored)) ∨
      signal.jobType = migrationJobType ∧
        ((signal.job.state.isTerminal = false ∧ ∃ e, precheck signal = some (.error e)) ∨
          signal.job.state.isTerminal = true ∧ precheck signal = none) := by
  by_cases htype : signal.jobType = migrationJobType
  · refine .inr ⟨htype, ?_⟩
    cases hstate : signal.job.state.isTerminal with
    | false => exact .inl ⟨rfl, _, by rw [precheck, if_neg (not_not_intro htype), hstate]; rfl⟩
    | true => exact .inr ⟨rfl, precheck_eq_none htype hstate⟩
  · exact .inl ⟨htype, if_pos htype⟩

/-- A record is judged a repeat exactly if the stored one has its content. -/
theorem Completion.judge_eq_ok_iff {existing record : AuditRecord} {completion : Completion} :
    judge existing record = .ok completion ↔
      completion = .alreadyRecorded ∧ existing.sameContent record = true := by
  rw [judge]
  split
  · next hsame => simp [hsame, eq_comm]
  · next hdiffers => simp [hdiffers]

/-- Judges a record by what a load finds. -/
def settle (record : AuditRecord) :
    Except MigrationError (Option AuditRecord) → Except MigrationError Completion
  | .error e => .error e
  | .ok none => .error (noDocument record.document)
  | .ok (some current) => judge current record

/-- A record that was not written is settled only by a stored record of its content. -/
theorem settle_eq_ok_iff {record : AuditRecord}
    {found : Except MigrationError (Option AuditRecord)} {completion : Completion} :
    settle record found = .ok completion ↔ completion = .alreadyRecorded ∧
      ∃ current, found = .ok (some current) ∧ current.sameContent record = true := by
  rcases found with e | _ | current
  · simp [settle]
  · simp [settle]
  · simp [settle, judge_eq_ok_iff]

/-- The last stage of a delivery that did not write: it looks who did. -/
def reloading (record : AuditRecord) : AuditProgram (Except MigrationError Completion) :=
  .load record.document fun found => .done (settle record found)

/-- The second stage of a delivery: it offers its record for saving. -/
def saving (record : AuditRecord) : AuditProgram (Except MigrationError Completion) :=
  .save record fun
    | .error e => .done (.error (saveFailed record.document e))
    | .ok true => .done (.ok .recorded)
    | .ok false => reloading record

/-- The first stage of a delivery: it looks at the stored record. -/
def waiting (record : AuditRecord) : AuditProgram (Except MigrationError Completion) :=
  .load record.document fun
    | .error e => .done (.error (loadFailed record.document e))
    | .ok none => .done (.error (noDocument record.document))
    | .ok (some existing) =>
      if existing.executed then .done (judge existing record) else saving record

/-- A delivery that is turned away is done. -/
theorem delivery_eq_done {now : Timestamp} {signal : JobFinished}
    {verdict : Except MigrationError Completion} (h : precheck signal = some verdict) :
    delivery now signal = .done verdict := by
  rw [delivery, recordCompletion, h]
  rfl

/-- A delivery that is not turned away begins by waiting. -/
theorem delivery_eq_waiting {now : Timestamp} {signal : JobFinished} (h : precheck signal = none) :
    delivery now signal = waiting (.ofSnapshot signal.job now) := by
  rw [delivery, recordCompletion, h]
  refine congrArg (AuditProgram.load _) ?_
  funext found
  rcases found with e | _ | existing
  · rfl
  · rfl
  · change (if existing.executed = true then _ else _) = _
    refine ite_congr rfl (fun _ => rfl) fun _ => congrArg (AuditProgram.save _) ?_
    funext wrote
    rcases wrote with e | _ | _
    · rfl
    · refine congrArg (AuditProgram.load _) ?_
      funext found
      rcases found with e | _ | current <;> rfl
    · rfl

/-! ### How long a delivery takes -/

/-- A program that takes at most the given number of steps. -/
inductive AuditProgram.EndsWithin {α : Type} : Nat → AuditProgram α → Prop
  | done (n : Nat) (a : α) : EndsWithin n (.done a)
  | load {n : Nat} {document : EntityReference}
      {next : Except MigrationError (Option AuditRecord) → AuditProgram α}
      (h : ∀ found, EndsWithin n (next found)) : EndsWithin (n + 1) (.load document next)
  | save {n : Nat} {record : AuditRecord} {next : Except MigrationError Bool → AuditProgram α}
      (h : ∀ wrote, EndsWithin n (next wrote)) : EndsWithin (n + 1) (.save record next)

theorem reloading_endsWithin (record : AuditRecord) : (reloading record).EndsWithin 1 :=
  .load fun found => .done 0 (settle record found)

theorem saving_endsWithin (record : AuditRecord) : (saving record).EndsWithin 2 := by
  refine .save ?_
  rintro (e | _ | _)
  · exact .done 1 _
  · exact reloading_endsWithin record
  · exact .done 1 _

theorem waiting_endsWithin (record : AuditRecord) : (waiting record).EndsWithin 3 := by
  refine .load ?_
  rintro (e | _ | existing)
  · exact .done 2 _
  · exact .done 2 _
  · change (if existing.executed = true then _ else _ : AuditProgram _).EndsWithin 2
    split
    · exact .done 2 _
    · exact saving_endsWithin record

/-- A delivery takes three steps at most. -/
theorem delivery_endsWithin (now : Timestamp) (signal : JobFinished) :
    (delivery now signal).EndsWithin 3 := by
  cases h : precheck signal with
  | none =>
    rw [delivery_eq_waiting h]
    exact waiting_endsWithin _
  | some verdict =>
    rw [delivery_eq_done h]
    exact .done 3 verdict

end SpaceMigration
