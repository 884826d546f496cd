import SpaceMigration.Proofs.Transcript

/-!
# Runs over hosts that answer alike

A job learns of its host only what the calls return. So if two hosts, from related states, return
the same results and end in related states again, then a run over the one and a run over the other
freeze the same snapshot, and end in related states (`MigrationJob.run_agrees`). The hosts may live
in different monads, and their states have nothing in common but the relation.

`Stateful.Agrees` says this of any two actions. It goes through sequences, and through the two
layers of a run, its error and its progress; the rest follows the run from its blocks to its whole.

## Main definitions

* `Stateful.Agrees` — actions with equal results that keep a relation between their states
* `Host.Agrees` — hosts whose calls agree
* `Host.overStates` — a host in any stack, as a host over states

## Main results

* `MigrationJob.run_agrees` — runs over such hosts agree
* `MigrationJob.run_overStates` — a run does not depend on the stack of its host
-/

namespace SpaceMigration

open Stateful (exec exec_pure exec_bind exec_run exec_throw_bind)

section

variable {m n : Type → Type} [Monad m] [Monad n] {σ τ : Type} [Stateful m σ] [Stateful n τ]
  {R : σ → τ → Prop} {α β : Type}

/-- From related states, the actions have the same result and end in related states. -/
def Stateful.Agrees (R : σ → τ → Prop) (x : m α) (y : n α) : Prop :=
  ∀ s t, R s t → (exec x s).1 = (exec y t).1 ∧ R (exec x s).2 (exec y t).2

namespace Stateful.Agrees

theorem pure (a : α) : Stateful.Agrees R (Pure.pure a : m α) (Pure.pure a : n α) := by
  intro s t h
  rw [exec_pure, exec_pure]
  exact ⟨rfl, h⟩

theorem bind {x : m α} {y : n α} {f : α → m β} {g : α → n β} (h : Stateful.Agrees R x y)
    (hf : ∀ a, Stateful.Agrees R (f a) (g a)) : Stateful.Agrees R (x >>= f) (y >>= g) := by
  intro s t hst
  obtain ⟨hresult, hst'⟩ := h s t hst
  rw [exec_bind, exec_bind, hresult]
  exact hf _ _ _ hst'

/-- Actions that may fail agree if they agree up to the error of the first. -/
theorem bindExcept {x : ExceptT MigrationError m α} {y : ExceptT MigrationError n α}
    {f : α → ExceptT MigrationError m β} {g : α → ExceptT MigrationError n β}
    (h : Stateful.Agrees R x.run y.run) (hf : ∀ a, Stateful.Agrees R (f a).run (g a).run) :
    Stateful.Agrees R (x >>= f).run (y >>= g).run := by
  rw [ExceptT.run_bind, ExceptT.run_bind]
  refine h.bind ?_
  intro r
  cases r with
  | ok a => exact hf a
  | error e => exact .pure _

end Stateful.Agrees

/-! ### Hosts and steps of a run -/

/-- The calls of the hosts agree. -/
structure Host.Agrees (R : σ → τ → Prop) (host : Host m) (host' : Host n) : Prop where
  clock : Stateful.Agrees R host.clock host'.clock
  isCancelled : Stateful.Agrees R host.isCancelled host'.isCancelled
  list (spaceKey : String) : Stateful.Agrees R (host.list spaceKey) (host'.list spaceKey)
  load (spaceKey documentId : String) :
    Stateful.Agrees R (host.load spaceKey documentId) (host'.load spaceKey documentId)
  convert (o : Occurrence) : Stateful.Agrees R (host.convert o) (host'.convert o)
  save (d : TargetDocument) : Stateful.Agrees R (host.save d) (host'.save d)

/-- The steps agree, whatever the progress they start with. -/
def RunM.Agrees (R : σ → τ → Prop) (x : RunM m α) (y : RunM n α) : Prop :=
  ∀ p, Stateful.Agrees R (x.run.run p) (y.run.run p)

namespace RunM.Agrees

theorem pure (a : α) : RunM.Agrees R (Pure.pure a : RunM m α) (Pure.pure a : RunM n α) :=
  fun p => Stateful.Agrees.pure (Except.ok a, p)

theorem throw (e : MigrationError) :
    RunM.Agrees R (MonadExcept.throw e : RunM m α) (MonadExcept.throw e : RunM n α) :=
  fun p => Stateful.Agrees.pure (Except.error e, p)

theorem modify (f : Progress → Progress) :
    RunM.Agrees R (modifyGet fun p => ((), f p) : RunM m Unit)
      (modifyGet fun p => ((), f p) : RunM n Unit) :=
  fun p => (Stateful.Agrees.pure ((), f p)).bind fun b => .pure (Except.ok b.1, b.2)

theorem bind {x : RunM m α} {y : RunM n α} {f : α → RunM m β} {g : α → RunM n β}
    (h : RunM.Agrees R x y) (hf : ∀ a, RunM.Agrees R (f a) (g a)) :
    RunM.Agrees R (x >>= f) (y >>= g) := by
  intro p
  rw [ExceptT.run_bind, ExceptT.run_bind, StateT.run_bind, StateT.run_bind]
  refine (h p).bind ?_
  rintro ⟨r, p'⟩
  cases r with
  | ok a => exact hf a p'
  | error e => exact .pure (Except.error e, p')

/-- Nothing follows an error. -/
theorem throw_bind (e : MigrationError) (f : α → RunM m β) (g : α → RunM n β) :
    RunM.Agrees R (MonadExcept.throw e >>= f) (MonadExcept.throw e >>= g) := by
  intro p s t hst
  rw [exec_run, exec_run, exec_throw_bind, exec_throw_bind]
  exact ⟨rfl, hst⟩

theorem attempt {x : m α} {y : n α} (h : Stateful.Agrees R x y) :
    RunM.Agrees R (RunM.attempt x) (RunM.attempt y) := by
  intro p
  refine Stateful.Agrees.bind (h.bind fun a => .pure (a, p)) ?_
  intro b
  exact .pure (Except.ok b.1, b.2)

variable {host : Host m} {host' : Host n} (h : host.Agrees R host')
include h

theorem logged (write : JobLog → Timestamp → JobLog) :
    RunM.Agrees R (RunM.logged host write) (RunM.logged host' write) := by
  refine (attempt h.clock).bind ?_
  intro now
  exact modify fun p : Progress => { p with log := write p.log now }

theorem checkCancelled (jobId : String) :
    RunM.Agrees R (RunM.checkCancelled host jobId) (RunM.checkCancelled host' jobId) := by
  refine (attempt h.isCancelled).bind ?_
  intro cancelled
  cases cancelled with
  | false => exact pure ()
  | true => exact throw (cancelledJob jobId)

end RunM.Agrees

/-! ### Level by level -/

variable {host : Host m} {host' : Host n} (h : Host.Agrees R host host')
include h

theorem convertBlocks_agrees (blocks : List ContentBlock) :
    Stateful.Agrees R (convertBlocks host blocks).run (convertBlocks host' blocks).run := by
  induction blocks with
  | nil => exact .pure (Except.ok ("", Tally.mk 0 0))
  | cons block rest ih =>
    cases block with
    | text content =>
      refine ih.bindExcept ?_
      intro tail
      exact .pure (Except.ok (content ++ tail.1, tail.2))
    | call o =>
      refine Stateful.Agrees.bindExcept (h.convert o) ?_
      intro conversion
      cases conversion with
      | replaced replacement =>
        refine ih.bindExcept ?_
        intro tail
        exact .pure (Except.ok _)
      | unchanged =>
        refine ih.bindExcept ?_
        intro tail
        exact .pure (Except.ok _)

theorem migrateDocument_agrees (spaceKey : String) (target : EntityReference)
    (documentId : String) :
    Stateful.Agrees R (migrateDocument host spaceKey target documentId).run
      (migrateDocument host' spaceKey target documentId).run := by
  refine Stateful.Agrees.bindExcept (h.load spaceKey documentId) ?_
  intro document
  refine (convertBlocks_agrees h document.content).bindExcept ?_
  rintro ⟨content, tally⟩
  refine Stateful.Agrees.bindExcept (h.save (document.migrated spaceKey target content)) ?_
  intro _
  exact .pure (Except.ok tally)

theorem migrateDocuments_agrees (jobId spaceKey : String) (target : EntityReference)
    (documentIds : List String) :
    RunM.Agrees R (migrateDocuments host jobId spaceKey target documentIds)
      (migrateDocuments host' jobId spaceKey target documentIds) := by
  induction documentIds with
  | nil => exact .pure (0, 0)
  | cons documentId rest ih =>
    refine (RunM.Agrees.checkCancelled h jobId).bind ?_
    intro _
    refine (RunM.Agrees.attempt (migrateDocument_agrees h spaceKey target documentId)).bind ?_
    intro outcome
    cases outcome with
    | ok tally =>
      refine (RunM.Agrees.logged h _).bind ?_
      intro _
      refine ih.bind ?_
      intro counts
      exact .pure (counts.1 + 1, counts.2)
    | error e =>
      cases he : e.isInfrastructure with
      | true =>
        simp only [he, ↓reduceIte]
        exact .throw_bind e _ _
      | false =>
        simp only [he, Bool.false_eq_true, ↓reduceIte]
        refine (RunM.Agrees.logged h _).bind ?_
        intro _
        refine ih.bind ?_
        intro counts
        exact .pure (counts.1, counts.2 + 1)

theorem migrateSpace_agrees (jobId : String) (space : SpaceSelection) (target : EntityReference) :
    RunM.Agrees R (migrateSpace host jobId space target)
      (migrateSpace host' jobId space target) := by
  refine (RunM.Agrees.checkCancelled h jobId).bind ?_
  intro _
  refine (RunM.Agrees.attempt (h.list space.key)).bind ?_
  intro listed
  cases listed with
  | error e =>
    cases he : e.isInfrastructure with
    | true =>
      simp only [he, ↓reduceIte]
      exact .throw_bind e _ _
    | false =>
      simp only [he, Bool.false_eq_true, ↓reduceIte]
      exact .logged h _
  | ok documentIds =>
    refine (migrateDocuments_agrees h jobId space.key target documentIds).bind ?_
    intro counts
    refine (RunM.Agrees.modify _).bind ?_
    intro _
    exact .logged h _

theorem migrateSpaces_agrees (jobId : String) (entries : List (SpaceSelection × EntityReference)) :
    RunM.Agrees R (migrateSpaces host jobId entries) (migrateSpaces host' jobId entries) := by
  induction entries with
  | nil => exact .pure ()
  | cons entry rest ih =>
    refine (migrateSpace_agrees h jobId entry.1 entry.2).bind ?_
    intro _
    exact ih

theorem MigrationJob.execute_agrees (job : MigrationJob) :
    RunM.Agrees R (job.execute host) (job.execute host') := by
  refine (RunM.Agrees.logged h _).bind ?_
  intro _
  exact migrateSpaces_agrees h job.id job.effectiveAnswer.entries

theorem MigrationJob.conclude_agrees (outcome : Except MigrationError Unit) :
    RunM.Agrees R (conclude host outcome) (conclude host' outcome) := by
  cases outcome with
  | ok _ =>
    rw [conclude, conclude]
    exact RunM.Agrees.logged h _
  | error e =>
    rw [conclude, conclude]
    exact RunM.Agrees.logged h _

/-- **Runs over hosts that answer alike agree.** -/
theorem MigrationJob.run_agrees (job : MigrationJob) :
    Stateful.Agrees R (job.run host) (job.run host') := by
  have hfreeze (freeze : Timestamp → JobSnapshot) :
      Stateful.Agrees R (host.clock >>= fun finishedAt => pure (freeze finishedAt))
        (host'.clock >>= fun finishedAt => pure (freeze finishedAt)) :=
    h.clock.bind fun finishedAt => .pure (freeze finishedAt)
  refine h.clock.bind ?_
  intro startedAt
  refine (RunM.Agrees.checkCancelled h job.id ⟨.empty, []⟩).bind ?_
  rintro ⟨cancelled, progress⟩
  cases cancelled with
  | ok _ =>
    refine (job.execute_agrees h progress).bind ?_
    rintro ⟨outcome, progress⟩
    refine (conclude_agrees h outcome progress).bind ?_
    rintro ⟨_, progress⟩
    exact hfreeze _
  | error e =>
    refine Stateful.Agrees.bind (.pure (Except.error e, progress)) ?_
    rintro ⟨outcome, progress⟩
    refine (conclude_agrees h outcome progress).bind ?_
    rintro ⟨_, progress⟩
    exact hfreeze _

end

/-! ### Hosts over their states -/

section

variable {m : Type → Type} [Monad m] {σ : Type} [Stateful m σ]

/-- A host in any stack, as a host over the states of the stack. -/
def Host.overStates (host : Host m) : Host (StateM σ) where
  clock := exec host.clock
  isCancelled := exec host.isCancelled
  list spaceKey := exec (host.list spaceKey)
  load spaceKey documentId := exec (host.load spaceKey documentId)
  convert o := exec (host.convert o)
  save d := exec (host.save d)

theorem Host.agrees_overStates (host : Host m) :
    Host.Agrees (fun s t => t = (s, ())) host host.overStates := by
  have hcall {α : Type} (x : m α) :
      Stateful.Agrees (n := StateM σ) (fun s t => t = (s, ())) x (exec x) := by
    rintro s t rfl
    exact ⟨rfl, rfl⟩
  exact ⟨hcall _, hcall _, fun _ => hcall _, fun _ _ => hcall _, fun _ => hcall _,
    fun _ => hcall _⟩

/-- A run does not depend on the stack of its host. -/
theorem MigrationJob.run_overStates (job : MigrationJob) (host : Host m) (s : σ) :
    (job.run host.overStates).run s = exec (job.run host) s := by
  obtain ⟨hsnapshot, hstate⟩ := job.run_agrees host.agrees_overStates s (s, ()) rfl
  exact Prod.ext hsnapshot.symm (congrArg Prod.fst hstate)

/-- An answer of the host over states is an answer of the host. -/
theorem Host.Answers.of_overStates {host : Host m} {before after : σ × Unit} {call : Call}
    (h : host.overStates.Answers before call after) : host.Answers before.1 call after.1 := by
  have hcall {α : Type} {x : m α} {result : α}
      (h : exec (m := StateM σ) (exec x) before = (result, after)) :
      exec x before.1 = (result, after.1) := by
    obtain ⟨hresult, hstate⟩ := Prod.mk.inj h
    exact Prod.ext hresult (congrArg Prod.fst hstate)
  cases call <;> exact hcall h

end

end SpaceMigration
