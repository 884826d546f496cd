import SpaceMigration.CommandLine.Program
import SpaceMigration.Proofs.AuditOnce
import SpaceMigration.Proofs.AuditedRun
import SpaceMigration.Proofs.RunPreparations
import SpaceMigration.Proofs.SavedDocuments

/-!
# What commands do to the store

A command starts from a store and leaves one, whether it succeeds or not. What it can do to the rows
is little. `init-audit` creates a row of its document where there is none, `show-audit` does
nothing, and `run` either fails and does nothing, or finds the record of its document waiting and
leaves it executed, however the job in between went (`Command.perform_ends`).

## Main definitions

* `Store.Executes` — the row of a waiting document becomes that of an executed one
* `Command.Effect` — what a command does to the store

## Main results

* `exec_runJob` — a job that is run for a waiting document, from its start to its record
* `Command.perform_ends` — every command has its effect and no other
-/

namespace SpaceMigration

/-- Between the stores the record of the document waited, and was written as that of an executed
run. What else happened to documents and metadata is left open. -/
structure Store.Executes (document : EntityReference) (store store' : Store) : Prop where
  waits : store.Waits document
  written : ∃ row : AuditRow, row.executed = true ∧
    store'.audit = store.audit.insert document.path row

section

variable {document : EntityReference} {store store' : Store}

theorem Store.not_waits_empty : ¬ Store.empty.Waits document := by
  rintro ⟨record, hload, -⟩
  cases hload

theorem Store.Waits.isExecuted (h : store.Waits document) : store.isExecuted document = false := by
  obtain ⟨record, hload, hexecuted⟩ := h
  obtain ⟨row, hrow, hsame⟩ := exists_row_of_loadRecord hload
  rw [Store.isExecuted, hrow, Option.any_some, hsame, hexecuted]

theorem Store.Waits.exists_row (h : store.Waits document) :
    ∃ row, store.audit.get? document.path = some row := by
  obtain ⟨record, hload, -⟩ := h
  obtain ⟨row, hrow, -⟩ := exists_row_of_loadRecord hload
  exact ⟨row, hrow⟩

theorem Store.Waits.saveAll (h : store.Waits document) (documents : List TargetDocument) :
    (store.saveAll documents).Waits document := by
  obtain ⟨record, hload, hexecuted⟩ := h
  refine ⟨record, ?_, hexecuted⟩
  rw [← hload]
  exact loadRecord_congr (by rw [audit_saveAll])

/-- Writing a record over a waiting one executes its document. -/
theorem Store.Waits.executes (h : store.Waits document) {record : AuditRecord}
    (hdocument : record.document = document) (documents : List TargetDocument)
    (later : Timestamp) :
    store.Executes document ((store.saveAll documents).written later record) := by
  subst hdocument
  refine ⟨h, .ofRecord record later, rfl, ?_⟩
  rw [← audit_saveAll documents store]
  rfl

theorem Store.Executes.get?_of_ne (h : store.Executes document store') {path : String}
    (hne : path ≠ document.path) : store'.audit.get? path = store.audit.get? path := by
  obtain ⟨row, -, haudit⟩ := h.written
  rw [haudit, StringMap.get?_insert, if_neg hne]

theorem Store.Executes.exists_row (h : store.Executes document store') :
    ∃ row, store'.audit.get? document.path = some row ∧ row.executed = true := by
  obtain ⟨row, hexecuted, haudit⟩ := h.written
  exact ⟨row, by rw [haudit, StringMap.get?_insert, if_pos rfl], hexecuted⟩

end

namespace CommandLine

open Stateful (exec exec_pure exec_bind exec_lift)

variable {m : Type → Type} [Monad m] {σ : Type} [Stateful m σ]

/-! ### Steps on the store -/

theorem exec_onStore {α : Type} (step : Store → α × Store) (session : Session) (world : σ) :
    exec (Session.onStore step : StateT Session m α) (session, world) =
      ((step session.store).1, { session with store := (step session.store).2 }, world) :=
  Stateful.exec_of_run_eq rfl world

theorem createAudit_ends (access : Access) (document : EntityReference) (store : Store) :
    SessionM.Ends (createAudit access document : SessionM m Unit) store fun _ store' =>
      store' = store ∨ store' = store.withAuditRow document := by
  have hcreate : SessionM.Ends (SessionM.attempt
      (Session.onStore (access.write (Store.createRecord document))) : SessionM m _) store
      fun r store' => ∃ a, r = .ok a ∧ (store' = store ∨ store' = store.withAuditRow document) := by
    refine .attempt ?_
    intro output world
    rw [exec_onStore]
    cases access with
    | readOnly => exact ⟨.inl rfl, rfl⟩
    | readWrite => exact ⟨.inr (store.createRecord_snd document), rfl⟩
  rw [createAudit]
  refine hcreate.bind ?_ ?_
  · rintro created store' ⟨_, -, hstore⟩
    refine .after (.require created) ?_ fun _ _ => hstore
    intro record _
    refine (SessionM.Keeps.ite (.say _) (.say _) store').mono ?_
    rintro _ _ rfl
    exact hstore
  · rintro e store' ⟨_, he, -⟩
    cases he

theorem printAudit_keeps (document : EntityReference) :
    SessionM.Keeps (printAudit document : SessionM m Unit) := by
  rw [printAudit]
  refine (SessionM.Keeps.loadRecord document).bind ?_
  rintro (_ | record)
  · exact .fail _
  · exact .say _

/-- The report leaves the store alone. It succeeds if the job is recorded and succeeded, and fails
otherwise. -/
theorem concludeRun_ends (job : JobSnapshot) (failures : List MigrationError) (store : Store) :
    SessionM.Ends (concludeRun job failures : SessionM m Unit) store fun r store' =>
      (r = .ok () ↔ failures = [] ∧ job.succeeded = true ∧
        ∃ record, store.loadRecord job.request.auditDocument = .ok (some record) ∧
          record.executed = true) ∧ store' = store := by
  rw [concludeRun]
  refine (SessionM.Ends.forM (fun result => .say _) job.results).after ?_ (by rintro _ ⟨⟩)
  intro _ _
  refine (SessionM.Ends.say _).after ?_ (by rintro _ ⟨⟩)
  intro _ _
  cases failures with
  | cons failure rest => exact .fail_bind ⟨by simp, rfl⟩
  | nil =>
    have hloaded := SessionM.Ends.loadRecord (m := m) job.request.auditDocument store
    cases hload : store.loadRecord job.request.auditDocument with
    | error e =>
      rw [hload] at hloaded
      exact hloaded.after (by rintro _ ⟨⟩) fun _ _ => ⟨by simp, rfl⟩
    | ok found =>
      rw [hload] at hloaded
      refine hloaded.after ?_ (by rintro _ ⟨⟩)
      rintro _ ⟨⟩
      have hrecorded : (∃ record, (.ok found : Except MigrationError _) = .ok (some record) ∧
          record.executed = true) ↔ found.any (·.executed) = true := by
        cases found <;> simp
      rw [hrecorded]
      cases found.any (·.executed) with
      | false => exact .fail_bind ⟨by simp, rfl⟩
      | true =>
        cases job.succeeded with
        | false => exact .throw ⟨by simp, rfl⟩
        | true => exact .pure ⟨by simp, rfl⟩

/-! ### Running a job -/

/-- The end of a run in turns is announced as that of a finished migration. -/
theorem precheck_eq_none_of_turnsRun {job : MigrationJob} {turns : List Nat} {calls : List Call}
    {snapshot : JobSnapshot} (h : TurnsRun job turns calls snapshot) :
    Completion.precheck ⟨snapshot.jobType, snapshot⟩ = none := by
  cases h with
  | cancelled => exact Completion.precheck_eq_none rfl rfl
  | @ended parts outcome => cases outcome <;> exact Completion.precheck_eq_none rfl rfl

variable [LawfulMonad m] {env : Environment m}

/-- The surroundings of a job that runs in a session. -/
def Session.host (env : Environment m) (access : Access) (source : Export) (registry : Registry) :
    Host (StateT Session m) :=
  .ofExport source registry (StateT.lift env.clock) (pure false) (Session.save access)

/-- The documents of the calls, as far as they reach a store with the access. -/
def Access.stored (access : Access) (calls : List Call) : List TargetDocument :=
  match access with
  | .readOnly => []
  | .readWrite => calls.filterMap Call.savedDocument?

omit [LawfulMonad m] in
/-- One answer stores the document that is saved, and nothing else happens. -/
theorem Session.eq_of_answer {access : Access} {source : Export} {registry : Registry} {call : Call}
    {s t : Session × σ} (h : (Session.host env access source registry).Answers s call t) :
    t = ({ s.1 with store := s.1.store.saveAll (Access.stored access [call]) }, s.2) := by
  obtain ⟨session, world⟩ := s
  have hpure {α : Type} {a b : α}
      (h : exec (pure a : StateT Session m α) (session, world) = (b, t)) :
      t = (session, world) := by
    rw [exec_pure] at h
    exact (congrArg Prod.snd h).symm
  cases call with
  | save d result =>
    have hsave : exec (Session.save access d) (session, world) = (result, t) := h
    rw [Session.save, exec_onStore] at hsave
    obtain rfl := congrArg Prod.snd hsave
    cases access <;> rfl
  | _ => cases access <;> exact hpure h

omit [LawfulMonad m] in
/-- While a job runs, its session stores the documents that it saves, and nothing else happens. -/
theorem Session.eq_of_path (hstill : env.Still) {access : Access} {source : Export}
    {registry : Registry} {calls : List Call} {s t : Session × σ}
    (h : (Session.host env access source registry).Path s calls t) :
    t = ({ s.1 with store := s.1.store.saveAll (Access.stored access calls) }, s.2) := by
  induction h with
  | refl s => cases access <;> rfl
  | @call s t u call calls answer _ ih =>
    have hsplit : Access.stored access (call :: calls) =
        Access.stored access [call] ++ Access.stored access calls := by
      cases access with
      | readOnly => rfl
      | readWrite => exact List.filterMap_append (l := [call])
    rw [ih, eq_of_answer answer, hsplit, Store.saveAll_append]
  | @clock s u calls _ ih =>
    have hclock : (exec (Session.host env access source registry).clock s).2 = s := by
      obtain ⟨session, world⟩ := s
      have hlift := exec_lift env.clock session world
      rw [hstill.clock] at hlift
      exact congrArg Prod.snd hlift
    rw [hclock] at ih
    exact ih

/-- The record of a finished job is written over a waiting one, unless writing is refused. -/
theorem exec_recordCompletion (hstill : env.Still) {access : Access} {signal : JobFinished}
    (hsignal : Completion.precheck signal = none) (now : Timestamp) {session : Session}
    (hwaits : session.store.Waits signal.job.request.auditDocument) (world : σ) :
    (∃ later, access = .readWrite ∧
      exec (recordCompletion (Session.auditStore env access) now signal) (session, world) =
        (.ok .recorded, { session with
          store := session.store.written later (.ofSnapshot signal.job now) }, world)) ∨
      access = .readOnly ∧ ∃ e,
        exec (recordCompletion (Session.auditStore env access) now signal) (session, world) =
          (.error e, session, world) := by
  obtain ⟨existing, hload, hexecuted⟩ := hwaits
  obtain ⟨row, hrow, hrowExecuted⟩ := Store.exists_row_of_loadRecord hload
  have hfound : exec ((Session.auditStore env access).load
      (AuditRecord.ofSnapshot signal.job now).document) (session, world) =
        (.ok (some existing), session, world) := by
    rw [← hload]
    exact exec_onStore (m := m) (fun store => (store.loadRecord _, store)) session world
  have hstage : exec (recordCompletion (Session.auditStore env access) now signal)
      (session, world) = exec ((saving (.ofSnapshot signal.job now)).runIn
        (Session.auditStore env access)) (session, world) := by
    rw [← runIn_delivery, delivery_eq_waiting hsignal, waiting, AuditProgram.runIn, exec_bind,
      hfound]
    simp only [hexecuted, Bool.false_eq_true, ↓reduceIte]
  have hoffered : exec ((Session.auditStore env access).saveExecuted (.ofSnapshot signal.job now))
      (session, world) =
        ((access.write (Store.saveExecuted (exec env.clock world).1 (.ofSnapshot signal.job now))
            session.store).1,
          { session with store := (access.write (Store.saveExecuted (exec env.clock world).1
            (.ofSnapshot signal.job now)) session.store).2 }, world) := by
    rw [Session.auditStore, exec_bind, exec_lift, hstill.clock]
    exact exec_onStore (m := m) _ session world
  rw [hstage, saving, AuditProgram.runIn, exec_bind, hoffered]
  cases access with
  | readWrite =>
    refine .inl ⟨(exec env.clock world).1, rfl, ?_⟩
    rw [Access.write, Store.saveExecuted_of_unexecuted rfl hrow (hrowExecuted.trans hexecuted)]
    exact exec_pure _ _
  | readOnly => exact .inr ⟨rfl, _, exec_pure _ _⟩

/-- The end of a job is announced to a listener that records it, unless writing is refused. -/
theorem exec_announce (hstill : env.Still) (access : Access) {finished : JobSnapshot}
    (hsignal : Completion.precheck ⟨finished.jobType, finished⟩ = none) (session : Session)
    (hwaits : session.store.Waits finished.request.auditDocument) (world : σ) :
    (∃ later, access = .readWrite ∧
      exec (announce (Session.auditStore env access) (StateT.lift env.clock) finished)
        (session, world) = ([], { session with
          store := session.store.written later (.ofSnapshot finished (exec env.clock world).1) },
            world)) ∨
      access = .readOnly ∧ ∃ e,
        exec (announce (Session.auditStore env access) (StateT.lift env.clock) finished)
          (session, world) = ([e], session, world) := by
  have hclock := exec_lift env.clock session world
  rw [hstill.clock] at hclock
  rw [announce_eq, exec_bind, hclock, exec_bind]
  obtain ⟨later, haccess, hrecord⟩ | ⟨haccess, e, hrecord⟩ :=
    exec_recordCompletion hstill hsignal (exec env.clock world).1 hwaits world
  · rw [hrecord, exec_pure]
    exact .inl ⟨later, haccess, rfl⟩
  · rw [hrecord, exec_pure]
    exact .inr ⟨haccess, e, rfl⟩

/-- **A job that is run for a waiting document is recorded**, with the documents that it has saved,
unless writing is refused. Then the failure to record it is all that is left of it. -/
theorem exec_runJob (hstill : env.Still) (access : Access) (source : Export) (registry : Registry)
    (job : MigrationJob) {store : Store} (hwaits : store.Waits job.request.auditDocument)
    (output : List String) (world : σ) :
    ∃ calls finished, TurnsRun job (job.fairTurns source) calls finished ∧
      ((access = .readWrite ∧ (∀ call ∈ calls, call.FaultFree source registry) ∧ ∃ later,
        exec (runJob env access source registry job) (⟨store, output⟩, world) =
          ((finished, []), ⟨(store.saveAll (calls.filterMap Call.savedDocument?)).written later
            (.ofSnapshot finished (exec env.clock world).1), output⟩, world)) ∨
      access = .readOnly ∧ ∃ e,
        exec (runJob env access source registry job) (⟨store, output⟩, world) =
          ((finished, [e]), ⟨store, output⟩, world)) := by
  obtain ⟨calls, hpath, h⟩ :=
    job.runInTurns_transcript (Session.host env access source registry) (job.fairTurns source)
      (⟨store, output⟩, world)
  have hafter := Session.eq_of_path hstill hpath
  have hfaultFree : access = .readWrite → ∀ call ∈ calls, call.FaultFree source registry := by
    rintro rfl
    refine hpath.faultFree_of_saves ?_
    rintro d ⟨session, world⟩
    rw [Session.save, exec_onStore]
    rfl
  have hrun : runJob env access source registry job = (do
      let finished ← job.runInTurns (job.fairTurns source)
        (Session.host env access source registry)
      let failures ← announce (Session.auditStore env access) (StateT.lift env.clock) finished
      return (finished, failures)) := rfl
  rw [hrun, exec_bind]
  generalize exec (job.runInTurns (job.fairTurns source)
    (Session.host env access source registry)) (⟨store, output⟩, world) = r at h hafter
  obtain ⟨finished, s⟩ := r
  obtain rfl : s = (⟨store.saveAll (Access.stored access calls), output⟩, world) := hafter
  refine ⟨calls, finished, h, ?_⟩
  have hstored : (⟨store.saveAll (Access.stored access calls), output⟩ : Session).store.Waits
      finished.request.auditDocument := by
    rw [h.request_eq]
    exact hwaits.saveAll _
  dsimp only
  rw [exec_bind]
  obtain ⟨later, rfl, hannounced⟩ | ⟨rfl, e, hannounced⟩ :=
    exec_announce hstill access (precheck_eq_none_of_turnsRun h) _ hstored world
  · rw [hannounced, exec_pure]
    exact .inl ⟨rfl, hfaultFree rfl, later, rfl⟩
  · rw [hannounced, exec_pure]
    exact .inr ⟨rfl, e, rfl⟩

/-! ### Commands -/

/-- What a command does to the store, given how it ended. A run that does not fail executes the
record of its document. -/
def Command.Effect (access : Access) (result : Except Failure Unit) (store store' : Store) :
    Command → Prop
  | .initAudit document => store' = store ∨ store' = store.withAuditRow ⟨document⟩
  | .run options =>
    (∃ e, result = .error e) ∧ store' = store ∨
      access = .readWrite ∧ store.Executes ⟨options.auditDocument⟩ store'
  | .showAudit _ => store' = store

theorem migrate_ends (hstill : env.Still) (access : Access) (config : Config)
    (options : RunOptions) (store : Store) :
    SessionM.Ends (migrate env access config options) store fun r store' =>
      (∃ e, r = .error e) ∧ store' = store ∨
        access = .readWrite ∧ store.Executes ⟨options.auditDocument⟩ store' := by
  refine .of_endsIn fun world => migrate_endsIn hstill (fun _ e => .inl ⟨⟨e, rfl⟩, rfl⟩) ?_
  intro source spaces jobId _ hready _
  refine SessionM.EndsIn.bind (Q := fun r store' => ∃ a, r = .ok a ∧
    (access = .readWrite ∧ store.Executes ⟨options.auditDocument⟩ store' ∨
      a.2 ≠ [] ∧ store' = store)) (.attempt ?_) ?_ (by rintro e _ ⟨_, ⟨⟩, -⟩)
  · intro output
    obtain ⟨calls, finished, h, ⟨haccess, -, later, hrun⟩ | ⟨-, e, hrun⟩⟩ :=
      exec_runJob hstill access source config.registry (options.job config spaces jobId)
        hready.waits output world
    · have hdocument : finished.request.auditDocument = ⟨options.auditDocument⟩ :=
        congrArg MigrationRequest.auditDocument h.request_eq
      rw [hrun]
      exact ⟨.inl ⟨haccess, hready.waits.executes hdocument _ later⟩, rfl⟩
    · rw [hrun]
      exact ⟨.inr ⟨List.cons_ne_nil _ _, rfl⟩, rfl⟩
  · rintro _ store' ⟨⟨finished, failures⟩, ⟨⟩, hends⟩
    refine ((concludeRun_ends finished failures store').endsIn world).mono ?_
    rintro r _ ⟨hsuccess, rfl⟩
    obtain hexecutes | ⟨hfailures, rfl⟩ := hends
    · exact .inr hexecutes
    · refine .inl ⟨?_, rfl⟩
      cases r with
      | error e => exact ⟨e, rfl⟩
      | ok => exact absurd (hsuccess.1 rfl).1 hfailures

/-- **Every command has its effect and no other**, and leaves the world beyond its store alone. -/
theorem Command.perform_ends (hstill : env.Still) (access : Access) (config : Config)
    (command : Command) (store : Store) :
    SessionM.Ends (command.perform env access config) store fun r store' =>
      command.Effect access r store store' := by
  cases command with
  | initAudit document => exact createAudit_ends access ⟨document⟩ store
  | run options => exact migrate_ends hstill access config options store
  | showAudit document => exact printAudit_keeps ⟨document⟩ store

end CommandLine

end SpaceMigration
