import SpaceMigration.Proofs.Transcript

/-!
# Runs that break off

Two runs of a job go in step for as long as their hosts answer alike. When an answer of the second
host ends its run, the second run is behind from there on: it stops producing, and the first goes on
on top of what both have produced so far.

`Tracks` says this of two actions, for two relations between their states. One holds while they go
in step; the other holds once the second has broken off, and the first must not destroy it. In a run
these relations speak of the progress as well (`alongside`, `ahead`), and a run that breaks off has
a part of the results and of the log of the run that it tracks (`MigrationJob.run_tracks`).

## What is left open

The readings of the clocks. The runs may see different times, so their logs are compared by what
they tell (`told`).

## Main definitions

* `told` — what a log tells, without the times
* `Tracks` — actions in step until the second breaks off
* `Host.Tracks` — hosts that answer alike until the second ends its run

## Main results

* `MigrationJob.run_tracks` — what a run that breaks off has produced
-/

namespace SpaceMigration

open Stateful (exec exec_pure exec_bind exec_lift exec_modify exec_exceptLift exec_throw_bind)

/-! ### Actions in step -/

section

variable {m n : Type → Type} [Monad m] [Monad n] {σ τ : Type} [Stateful m σ] [Stateful n τ]
  {α β : Type}

/-- From states in step, the actions have the same result and stay in step, unless the second
breaks off with an error that ends its run. Once it is behind, the first may go on. -/
structure Tracks (ends : MigrationError → Prop) (inStep behind : σ → τ → Prop)
    (x : ExceptT MigrationError m α) (y : ExceptT MigrationError n α) : Prop where
  goes : ∀ s t, inStep s t →
    (exec x.run s).1 = (exec y.run t).1 ∧ inStep (exec x.run s).2 (exec y.run t).2 ∨
      ∃ e, ends e ∧ (exec y.run t).1 = .error e ∧ behind (exec x.run s).2 (exec y.run t).2
  stays : ∀ s t, behind s t → behind (exec x.run s).2 t

namespace Tracks

variable {ends : MigrationError → Prop} {inStep behind : σ → τ → Prop}

/-- Actions without effects stay in step. -/
theorem ofPure (r : Except MigrationError α) :
    Tracks ends inStep behind (ExceptT.mk (Pure.pure r : m _))
      (ExceptT.mk (Pure.pure r : n _)) where
  goes s t h := by
    rw [ExceptT.run_mk, ExceptT.run_mk, exec_pure, exec_pure]
    exact .inl ⟨rfl, h⟩
  stays s t h := by
    rw [ExceptT.run_mk, exec_pure]
    exact h

theorem pure (a : α) : Tracks ends inStep behind (Pure.pure a : ExceptT MigrationError m α)
    (Pure.pure a : ExceptT MigrationError n α) :=
  ofPure (.ok a)

theorem throw (e : MigrationError) :
    Tracks ends inStep behind (MonadExcept.throw e : ExceptT MigrationError m α)
      (MonadExcept.throw e : ExceptT MigrationError n α) :=
  ofPure (.error e)

theorem bind {x : ExceptT MigrationError m α} {y : ExceptT MigrationError n α}
    {f : α → ExceptT MigrationError m β} {g : α → ExceptT MigrationError n β}
    (h : Tracks ends inStep behind x y) (hf : ∀ a, Tracks ends inStep behind (f a) (g a)) :
    Tracks ends inStep behind (x >>= f) (y >>= g) where
  goes s t hst := by
    rw [ExceptT.run_bind, ExceptT.run_bind, exec_bind, exec_bind]
    obtain ⟨hresult, hst⟩ | ⟨e, he, hresult, hst⟩ := h.goes s t hst
    · rw [← hresult]
      cases (exec x.run s).1 with
      | ok a => exact (hf a).goes _ _ hst
      | error e => exact (ofPure (.error e)).goes _ _ hst
    · rw [hresult]
      refine .inr ⟨e, he, ?_, ?_⟩
      · exact congrArg Prod.fst (exec_pure _ _)
      · simp only [exec_pure]
        cases (exec x.run s).1 with
        | ok a => exact (hf a).stays _ _ hst
        | error e' => rwa [exec_pure]
  stays s t hst := by
    rw [ExceptT.run_bind, exec_bind]
    have hst' := h.stays s t hst
    cases (exec x.run s).1 with
    | ok a => exact (hf a).stays _ _ hst'
    | error e => rwa [exec_pure]

end Tracks

/-! ### The progress of runs in step -/

/-- What a log tells: levels, messages and traces, without the times. -/
def told (events : List LogEvent) : List (LogLevel × String × Option (List String)) :=
  events.map fun event => (event.level, event.message, event.trace)

/-- The runs have the same results, their states are in step, and their logs tell the same. -/
def alongside (inStep : σ → τ → Prop) (s : Progress × σ) (t : Progress × τ) : Prop :=
  t.1.results = s.1.results ∧ told t.1.log.events = told s.1.log.events ∧ inStep s.2 t.2

/-- The first run is ahead: the second has a part of its results, its log tells a part of what the
log of the first tells, and its state is behind. -/
def ahead (behind : σ → τ → Prop) (s : Progress × σ) (t : Progress × τ) : Prop :=
  t.1.results <+: s.1.results ∧ told t.1.log.events <+: told s.1.log.events ∧ behind s.2 t.2

/-- Steps of two runs, of which the second may break off with any error. -/
abbrev RunM.Tracks (inStep behind : σ → τ → Prop) (x : RunM m α) (y : RunM n α) : Prop :=
  SpaceMigration.Tracks (fun _ => True) (alongside inStep) (ahead behind) x y

theorem ahead_of_alongside {inStep behind : σ → τ → Prop} {p q : Progress} {s s' : σ} {t t' : τ}
    (h : alongside inStep (p, s) (q, t)) (h' : behind s' t') : ahead behind (p, s') (q, t') :=
  ⟨h.1 ▸ List.prefix_rfl, h.2.1 ▸ List.prefix_rfl, h'⟩

theorem exec_attempt (call : m α) (p : Progress) (s : σ) :
    exec (RunM.attempt call).run (p, s) = (.ok (exec call s).1, p, (exec call s).2) := by
  rw [RunM.attempt, exec_exceptLift, exec_lift]

theorem exec_modifyGet (f : Progress → Progress) (p : Progress) (s : σ) :
    exec (modifyGet fun p => ((), f p) : RunM m Unit).run (p, s) = (.ok (), f p, s) := by
  have hlift : (modifyGet fun p => ((), f p) : RunM m Unit) =
      ExceptT.lift (modify f : StateT Progress m Unit) := rfl
  rw [hlift, exec_exceptLift, exec_modify]

theorem exec_logged (host : Host m) (write : JobLog → Timestamp → JobLog) (p : Progress) (s : σ) :
    exec (RunM.logged host write).run (p, s) =
      (.ok (), { p with log := write p.log (exec host.clock s).1 }, (exec host.clock s).2) := by
  rw [RunM.logged, ExceptT.run_bind, exec_bind, exec_attempt]
  exact exec_modifyGet _ p _

theorem exec_checkCancelled (host : Host m) (jobId : String) (p : Progress) (s : σ) :
    exec (RunM.checkCancelled host jobId).run (p, s) =
      (if (exec host.isCancelled s).1 then .error (cancelledJob jobId) else .ok (), p,
        (exec host.isCancelled s).2) := by
  rw [RunM.checkCancelled, ExceptT.run_bind, exec_bind, exec_attempt]
  cases (exec host.isCancelled s).1 with
  | false => exact exec_pure _ _
  | true => exact exec_pure _ _

namespace RunM.Tracks

variable {inStep behind : σ → τ → Prop}

/-- A call whose error is a value of the run. If the call breaks off, the second run has to end
with its error, since from there on the runs are no longer in step. -/
theorem attempt_bind {x : ExceptT MigrationError m α} {y : ExceptT MigrationError n α}
    {f : Except MigrationError α → RunM m β} {g : Except MigrationError α → RunM n β}
    {ends : MigrationError → Prop} (h : SpaceMigration.Tracks ends inStep behind x y)
    (hf : ∀ r, RunM.Tracks inStep behind (f r) (g r))
    (hg : ∀ e, ends e → ∀ t, exec (g (.error e)).run t = (.error e, t)) :
    RunM.Tracks inStep behind (RunM.attempt x.run >>= f) (RunM.attempt y.run >>= g) where
  goes := by
    rintro ⟨p, s⟩ ⟨q, t⟩ hrun
    rw [ExceptT.run_bind, ExceptT.run_bind, exec_bind, exec_bind, exec_attempt, exec_attempt]
    obtain ⟨hresult, hst⟩ | ⟨e, he, hresult, hst⟩ := h.goes s t hrun.2.2
    · rw [← hresult]
      exact (hf _).goes _ _ ⟨hrun.1, hrun.2.1, hst⟩
    · simp only [hresult, hg e he]
      exact .inr ⟨e, trivial, rfl, (hf _).stays _ _ (ahead_of_alongside hrun hst)⟩
  stays := by
    rintro ⟨p, s⟩ ⟨q, t⟩ ⟨hresults, hlog, hst⟩
    rw [ExceptT.run_bind, exec_bind, exec_attempt]
    exact (hf _).stays _ _ ⟨hresults, hlog, h.stays s t hst⟩

/-- Both runs change their progress in the same way. -/
theorem modify {f : Progress → Progress}
    (halike : ∀ p q : Progress, q.results = p.results → told q.log.events = told p.log.events →
      (f q).results = (f p).results ∧ told (f q).log.events = told (f p).log.events)
    (hgrows : ∀ p : Progress, p.results <+: (f p).results ∧
      told p.log.events <+: told (f p).log.events) :
    RunM.Tracks inStep behind (modifyGet fun p => ((), f p) : RunM m Unit)
      (modifyGet fun p => ((), f p) : RunM n Unit) where
  goes := by
    rintro ⟨p, s⟩ ⟨q, t⟩ ⟨hresults, hlog, hst⟩
    rw [exec_modifyGet, exec_modifyGet]
    exact .inl ⟨rfl, (halike p q hresults hlog).1, (halike p q hresults hlog).2, hst⟩
  stays := by
    rintro ⟨p, s⟩ ⟨q, t⟩ ⟨hresults, hlog, hst⟩
    rw [exec_modifyGet]
    exact ⟨hresults.trans (hgrows p).1, hlog.trans (hgrows p).2, hst⟩

end RunM.Tracks

/-! ### Hosts in step -/

/-- The hosts answer alike, until the second gives an answer that ends its run: an infrastructure
error, or that the job is cancelled. Their clocks may differ. -/
structure Host.Tracks (inStep behind : σ → τ → Prop) (host : Host m) (host' : Host n) : Prop where
  clock : ∀ s t, inStep s t → inStep (exec host.clock s).2 (exec host'.clock t).2
  clock_first : ∀ s t, behind s t → behind (exec host.clock s).2 t
  clock_second : ∀ s t, behind s t → behind s (exec host'.clock t).2
  isCancelled : ∀ s t, inStep s t →
    (exec host.isCancelled s).1 = (exec host'.isCancelled t).1 ∧
        inStep (exec host.isCancelled s).2 (exec host'.isCancelled t).2 ∨
      (exec host'.isCancelled t).1 = true ∧
        behind (exec host.isCancelled s).2 (exec host'.isCancelled t).2
  isCancelled_first : ∀ s t, behind s t → behind (exec host.isCancelled s).2 t
  list (spaceKey : String) : SpaceMigration.Tracks (·.isInfrastructure = true) inStep behind
    (ExceptT.mk (host.list spaceKey)) (ExceptT.mk (host'.list spaceKey))
  load (spaceKey documentId : String) : SpaceMigration.Tracks (·.isInfrastructure = true) inStep
    behind (ExceptT.mk (host.load spaceKey documentId))
    (ExceptT.mk (host'.load spaceKey documentId))
  convert (o : Occurrence) : SpaceMigration.Tracks (·.isInfrastructure = true) inStep behind
    (ExceptT.mk (host.convert o)) (ExceptT.mk (host'.convert o))
  save (d : TargetDocument) : SpaceMigration.Tracks (·.isInfrastructure = true) inStep behind
    (ExceptT.mk (host.save d)) (ExceptT.mk (host'.save d))

theorem told_append (log : JobLog) (now : Timestamp) (level : LogLevel) (message : String)
    (trace : Option (List String)) :
    told (log.append now level message trace).events =
      told log.events ++ [(level, message, trace)] := by
  rw [JobLog.append, told, List.map_append]
  rfl

variable {inStep behind : σ → τ → Prop} {host : Host m} {host' : Host n}
  (h : Host.Tracks inStep behind host host')
include h

/-- Events with the same words keep the logs telling the same. -/
theorem RunM.Tracks.logged {write : JobLog → Timestamp → JobLog}
    (hwrite : ∃ entry, ∀ log now, told (write log now).events = told log.events ++ [entry]) :
    RunM.Tracks inStep behind (RunM.logged host write) (RunM.logged host' write) := by
  obtain ⟨entry, hwrite⟩ := hwrite
  constructor
  · rintro ⟨p, s⟩ ⟨q, t⟩ ⟨hresults, hlog, hst⟩
    rw [exec_logged, exec_logged]
    exact .inl ⟨rfl, hresults, by rw [hwrite, hwrite, hlog], h.clock s t hst⟩
  · rintro ⟨p, s⟩ ⟨q, t⟩ ⟨hresults, hlog, hst⟩
    rw [exec_logged]
    exact ⟨hresults, by rw [hwrite]; exact hlog.trans (List.prefix_append _ _),
      h.clock_first s t hst⟩

theorem RunM.Tracks.note (level : LogLevel) (message : String) :
    RunM.Tracks inStep behind (RunM.note host level message) (RunM.note host' level message) :=
  logged h ⟨_, fun log now => told_append log now level message none⟩

theorem RunM.Tracks.fail (message : String) (cause : MigrationError) :
    RunM.Tracks inStep behind (RunM.fail host message cause) (RunM.fail host' message cause) :=
  logged h ⟨_, fun log now => told_append log now _ _ _⟩

theorem RunM.Tracks.checkCancelled (jobId : String) :
    RunM.Tracks inStep behind (RunM.checkCancelled host jobId)
      (RunM.checkCancelled host' jobId) := by
  constructor
  · rintro ⟨p, s⟩ ⟨q, t⟩ hrun
    rw [exec_checkCancelled, exec_checkCancelled]
    obtain ⟨hsame, hst⟩ | ⟨hcancelled, hst⟩ := h.isCancelled s t hrun.2.2
    · rw [hsame]
      exact .inl ⟨rfl, hrun.1, hrun.2.1, hst⟩
    · rw [hcancelled]
      exact .inr ⟨cancelledJob jobId, trivial, rfl, ahead_of_alongside hrun hst⟩
  · rintro ⟨p, s⟩ ⟨q, t⟩ ⟨hresults, hlog, hst⟩
    rw [exec_checkCancelled]
    exact ⟨hresults, hlog, h.isCancelled_first s t hst⟩

/-! ### Level by level -/

theorem convertBlocks_tracks (blocks : List ContentBlock) :
    Tracks (·.isInfrastructure = true) inStep behind (convertBlocks host blocks)
      (convertBlocks host' blocks) := by
  induction blocks with
  | nil => exact .pure ("", Tally.mk 0 0)
  | cons block rest ih =>
    cases block with
    | text content =>
      refine ih.bind ?_
      intro tail
      exact .pure (content ++ tail.1, tail.2)
    | call o =>
      refine (h.convert o).bind ?_
      intro conversion
      cases conversion with
      | replaced replacement =>
        refine ih.bind ?_
        intro tail
        exact .pure _
      | unchanged =>
        refine ih.bind ?_
        intro tail
        exact .pure _

theorem migrateDocument_tracks (spaceKey : String) (target : EntityReference)
    (documentId : String) :
    Tracks (·.isInfrastructure = true) inStep behind
      (migrateDocument host spaceKey target documentId)
      (migrateDocument host' spaceKey target documentId) := by
  refine (h.load spaceKey documentId).bind ?_
  intro document
  refine (convertBlocks_tracks h document.content).bind ?_
  rintro ⟨content, tally⟩
  refine (h.save (document.migrated spaceKey target content)).bind ?_
  intro _
  exact .pure tally

theorem migrateDocuments_tracks (jobId spaceKey : String) (target : EntityReference)
    (documentIds : List String) :
    RunM.Tracks inStep behind (migrateDocuments host jobId spaceKey target documentIds)
      (migrateDocuments host' jobId spaceKey target documentIds) := by
  induction documentIds with
  | nil => exact .pure (0, 0)
  | cons documentId rest ih =>
    refine (RunM.Tracks.checkCancelled h jobId).bind ?_
    intro _
    refine RunM.Tracks.attempt_bind (migrateDocument_tracks h spaceKey target documentId) ?_ ?_
    · intro outcome
      cases outcome with
      | ok tally =>
        refine (RunM.Tracks.note h _ _).bind ?_
        intro _
        refine ih.bind ?_
        intro counts
        exact .pure (counts.1 + 1, counts.2)
      | error e =>
        cases he : e.isInfrastructure with
        | true =>
          simp only [he, ↓reduceIte]
          exact (Tracks.throw e).bind fun _ => (RunM.Tracks.fail h _ _).bind fun _ =>
            ih.bind fun counts => .pure (counts.1, counts.2 + 1)
        | false =>
          simp only [he, Bool.false_eq_true, ↓reduceIte]
          refine (RunM.Tracks.fail h _ _).bind ?_
          intro _
          refine ih.bind ?_
          intro counts
          exact .pure (counts.1, counts.2 + 1)
    · intro e he t
      simp only [he, ↓reduceIte]
      exact exec_throw_bind e _ t

theorem migrateSpace_tracks (jobId : String) (space : SpaceSelection) (target : EntityReference) :
    RunM.Tracks inStep behind (migrateSpace host jobId space target)
      (migrateSpace host' jobId space target) := by
  refine (RunM.Tracks.checkCancelled h jobId).bind ?_
  intro _
  refine RunM.Tracks.attempt_bind (h.list space.key) ?_ ?_
  · intro listed
    cases listed with
    | ok documentIds =>
      refine (migrateDocuments_tracks h jobId space.key target documentIds).bind ?_
      intro counts
      refine (RunM.Tracks.modify ?_ ?_).bind ?_
      · intro p q hresults hlog
        exact ⟨by rw [hresults], hlog⟩
      · intro p
        exact ⟨List.prefix_append _ _, List.prefix_rfl⟩
      · intro _
        exact RunM.Tracks.note h _ _
    | error e =>
      cases he : e.isInfrastructure with
      | true =>
        simp only [he, ↓reduceIte]
        exact (Tracks.throw e).bind fun _ => RunM.Tracks.fail h _ _
      | false =>
        simp only [he, Bool.false_eq_true, ↓reduceIte]
        exact RunM.Tracks.fail h _ _
  · intro e he t
    simp only [he, ↓reduceIte]
    exact exec_throw_bind e _ t

theorem migrateSpaces_tracks (jobId : String) (entries : List (SpaceSelection × EntityReference)) :
    RunM.Tracks inStep behind (migrateSpaces host jobId entries)
      (migrateSpaces host' jobId entries) := by
  induction entries with
  | nil => exact .pure ()
  | cons entry rest ih =>
    refine (migrateSpace_tracks h jobId entry.1 entry.2).bind ?_
    intro _
    exact ih

/-- The steps of a run from its first look at the cancellation to its end. -/
theorem MigrationJob.steps_tracks (job : MigrationJob) :
    RunM.Tracks inStep behind (RunM.checkCancelled host job.id >>= fun _ => job.execute host)
      (RunM.checkCancelled host' job.id >>= fun _ => job.execute host') := by
  refine (RunM.Tracks.checkCancelled h job.id).bind ?_
  intro _
  refine (RunM.Tracks.note h _ _).bind ?_
  intro _
  exact migrateSpaces_tracks h job.id job.effectiveAnswer.entries

omit h

/-! ### The whole run -/

theorem MigrationJob.exec_conclude (host : Host m) (outcome : Except MigrationError Unit)
    (p : Progress) (s : σ) :
    exec (conclude host outcome).run (p, s) =
      (.ok (), { p with log := closeLog outcome (exec host.clock s).1 p.log },
        (exec host.clock s).2) := by
  cases outcome with
  | ok _ =>
    rw [conclude, RunM.note, exec_logged]
    rfl
  | error e =>
    rw [conclude, RunM.fail, exec_logged]
    rfl

/-- A run is its steps after one reading of the clock and before two more, for the last event and
for the end. -/
theorem MigrationJob.exec_run (job : MigrationJob) (host : Host m) (s : σ) :
    let steps := exec (RunM.checkCancelled host job.id >>= fun _ => job.execute host).run
      (⟨.empty, []⟩, (exec host.clock s).2)
    (exec (job.run host) s).1.results = steps.2.1.results ∧
      (exec (job.run host) s).1.log =
        (closeLog steps.1 (exec host.clock steps.2.2).1 steps.2.1.log).events ∧
      (exec (job.run host) s).2 = (exec host.clock (exec host.clock steps.2.2).2).2 := by
  intro steps
  have hsteps : steps = exec (RunM.checkCancelled host job.id >>= fun _ => job.execute host).run
      (⟨.empty, []⟩, (exec host.clock s).2) := rfl
  rw [ExceptT.run_bind, exec_bind, exec_checkCancelled] at hsteps
  rw [MigrationJob.run, MigrationJob.runWith, exec_bind, exec_bind, Stateful.exec_run,
    exec_checkCancelled]
  generalize (exec host.isCancelled (exec host.clock s).2).1 = cancelled at hsteps ⊢
  cases cancelled with
  | false =>
    simp only [Bool.false_eq_true, ↓reduceIte] at hsteps ⊢
    rw [exec_bind, Stateful.exec_run, exec_bind, Stateful.exec_run, exec_conclude, exec_bind,
      exec_pure, ← hsteps]
    exact ⟨rfl, rfl, rfl⟩
  | true =>
    simp only [↓reduceIte] at hsteps ⊢
    rw [exec_bind, exec_pure, exec_bind, Stateful.exec_run, exec_conclude, exec_bind, exec_pure,
      hsteps, exec_pure]
    exact ⟨rfl, rfl, rfl⟩

theorem events_closeLog (outcome : Except MigrationError Unit) (now : Timestamp) (log : JobLog) :
    ∃ last, (closeLog outcome now log).events = log.events ++ [last] := by
  cases outcome with
  | ok _ => exact ⟨_, rfl⟩
  | error e => exact ⟨_, rfl⟩

/-- **A run that breaks off has a part of what the run that it tracks has**: of its results and, up
to the event that says why it broke off, of its log. -/
theorem MigrationJob.run_tracks (h : Host.Tracks inStep behind host host') (job : MigrationJob)
    {s : σ} {t : τ} (hst : inStep s t) :
    let complete := exec (job.run host) s
    let broken := exec (job.run host') t
    broken.1.results <+: complete.1.results ∧
      told broken.1.log.dropLast <+: told complete.1.log ∧
      (inStep complete.2 broken.2 ∨ behind complete.2 broken.2) := by
  intro complete broken
  obtain ⟨hresults, hlog, hstate⟩ := job.exec_run host s
  obtain ⟨hresults', hlog', hstate'⟩ := job.exec_run host' t
  have hsteps := (job.steps_tracks h).goes (⟨.empty, []⟩, (exec host.clock s).2)
    (⟨.empty, []⟩, (exec host'.clock t).2) ⟨rfl, rfl, h.clock s t hst⟩
  revert hresults hlog hstate hresults' hlog' hstate' hsteps
  generalize exec (RunM.checkCancelled host job.id >>= fun _ => job.execute host).run _ = steps
  generalize exec (RunM.checkCancelled host' job.id >>= fun _ => job.execute host').run _ = steps'
  intro hresults hlog hstate hresults' hlog' hstate' hsteps
  obtain ⟨last, hlast⟩ := events_closeLog steps.1 (exec host.clock steps.2.2).1 steps.2.1.log
  obtain ⟨last', hlast'⟩ := events_closeLog steps'.1 (exec host'.clock steps'.2.2).1 steps'.2.1.log
  have hparts : steps'.2.1.results <+: steps.2.1.results ∧
      told steps'.2.1.log.events <+: told steps.2.1.log.events ∧
      (inStep complete.2 broken.2 ∨ behind complete.2 broken.2) := by
    rw [hstate, hstate']
    obtain ⟨-, hsame, hwords, hst⟩ | ⟨e, -, -, hparts, hwords, hst⟩ := hsteps
    · exact ⟨hsame ▸ List.prefix_rfl, hwords ▸ List.prefix_rfl,
        .inl (h.clock _ _ (h.clock _ _ hst))⟩
    · exact ⟨hparts, hwords, .inr (h.clock_second _ _ (h.clock_second _ _
        (h.clock_first _ _ (h.clock_first _ _ hst))))⟩
  refine ⟨?_, ?_, hparts.2.2⟩
  · rw [hresults, hresults']
    exact hparts.1
  · rw [hlog, hlog', hlast, hlast', List.dropLast_concat]
    exact hparts.2.1.trans ((List.prefix_append _ _).map _)

end

end SpaceMigration
