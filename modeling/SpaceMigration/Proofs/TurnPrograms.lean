import SpaceMigration.Proofs.Faults
import SpaceMigration.Proofs.TurnTranscript

/-!
# Runs in turns have transcripts

The bridge from the program to the rules of `SpaceMigration.Proofs.TurnTranscript`: over every host
and with every list of turns, a run makes the calls of a transcript and returns its snapshot
(`MigrationJob.runInTurns_transcript`). Statements about runs in turns are proved by induction on
their transcripts, and no other proof opens the run itself.

The steps of a run only add to its log and to its results. So what a step yields is stated without
the progress that it starts from (`RunM.Adds`).

## Main results

* `MigrationJob.runInTurns_transcript` — every run in turns has a transcript
* `MigrationJob.runInTurns_nil` — without turns, one space is migrated after another
* `MigrationJob.observed_turnsRun`, `MigrationJob.disturbed_turnsRun` — observed runs
-/

namespace SpaceMigration

open Stateful (exec exec_stateT)

/-! ### Steps that add -/

/-- What a step of a run yields that starts with any progress and only adds to it. -/
def RunM.Adds {m : Type → Type} [Monad m] {σ α : Type} [Stateful m σ] (host : Host m)
    (x : RunM m α)
    (Q : List Call → List LogEvent → List SpaceResult → Except MigrationError α → Prop) : Prop :=
  ∀ p, RunM.Yields host x p fun calls r p' =>
    ∃ events results, p' = p.extend events results ∧ Q calls events results r

namespace RunM.Adds

variable {m : Type → Type} [Monad m] {σ : Type} [Stateful m σ] {host : Host m} {α β : Type}
  {x : RunM m α} {Q : List Call → List LogEvent → List SpaceResult → Except MigrationError α → Prop}
  {R : List Call → List LogEvent → List SpaceResult → Except MigrationError β → Prop}

theorem mono {Q' : List Call → List LogEvent → List SpaceResult → Except MigrationError α → Prop}
    (h : RunM.Adds host x Q)
    (hQ : ∀ calls events results r, Q calls events results r → Q' calls events results r) :
    RunM.Adds host x Q' := by
  intro p
  refine (h p).mono ?_
  rintro calls r _ ⟨events, results, rfl, hq⟩
  exact ⟨events, results, rfl, hQ _ _ _ _ hq⟩

theorem pure {a : α} (h : Q [] [] [] (.ok a)) : RunM.Adds host (Pure.pure a : RunM m α) Q :=
  fun p => RunM.Yields.pure ⟨[], [], p.extend_nil.symm, h⟩

theorem throw {e : MigrationError} (h : Q [] [] [] (.error e)) :
    RunM.Adds host (MonadExcept.throw e : RunM m α) Q :=
  fun p => RunM.Yields.throw ⟨[], [], p.extend_nil.symm, h⟩

theorem bind {f : α → RunM m β} (hx : RunM.Adds host x Q)
    (hok : ∀ calls events results a, Q calls events results (.ok a) →
      RunM.Adds host (f a) fun more later others r =>
        R (calls ++ more) (events ++ later) (results ++ others) r)
    (herror : ∀ calls events results e, Q calls events results (.error e) →
      R calls events results (.error e)) : RunM.Adds host (x >>= f) R := by
  intro p
  refine (hx p).bind ?_ ?_
  · rintro calls a _ ⟨events, results, rfl, hq⟩
    refine (hok _ _ _ _ hq _).mono ?_
    rintro more r _ ⟨later, others, rfl, hr⟩
    exact ⟨_, _, p.extend_extend .., hr⟩
  · rintro calls e _ ⟨events, results, rfl, hq⟩
    exact ⟨events, results, rfl, herror _ _ _ _ hq⟩

/-- Nothing follows an error. -/
theorem throw_bind {e : MigrationError} {f : α → RunM m β} (h : R [] [] [] (.error e)) :
    RunM.Adds host ((MonadExcept.throw e : RunM m α) >>= f) R :=
  bind (Q := fun calls events results r => calls = [] ∧ events = [] ∧ results = [] ∧ r = .error e)
    (.throw ⟨rfl, rfl, rfl, rfl⟩) (by rintro _ _ _ _ ⟨-, -, -, ⟨⟩⟩)
    (by rintro _ _ _ _ ⟨rfl, rfl, rfl, ⟨⟩⟩; exact h)

/-- A call adds itself to the calls, and nothing else. -/
theorem attempt_bind {call : m α} {S : List Call → α → Prop} {f : α → RunM m β}
    (hcall : host.Yields call S)
    (hf : ∀ calls a, S calls a → RunM.Adds host (f a) fun more events results r =>
      R (calls ++ more) events results r) :
    RunM.Adds host (RunM.attempt call >>= f) R := by
  intro p
  refine RunM.Yields.seq (.attempt hcall) ?_
  rintro calls a _ ⟨hs, rfl⟩
  exact hf calls a hs _

theorem note {level : LogLevel} {message : String}
    {Q : List Call → List LogEvent → List SpaceResult → Except MigrationError Unit → Prop}
    (h : ∀ stamp, Q [] [⟨level, stamp, message, none⟩] [] (.ok ())) :
    RunM.Adds host (RunM.note host level message) Q := by
  intro p
  refine RunM.Yields.note.mono ?_
  rintro calls r _ ⟨_, rfl, rfl, now, rfl⟩
  exact ⟨_, _, p.extend_events _ |>.symm, h (p.log.stamp now)⟩

theorem fail {message : String} {cause : MigrationError}
    {Q : List Call → List LogEvent → List SpaceResult → Except MigrationError Unit → Prop}
    (h : ∀ stamp, Q [] [⟨.error, stamp, message ++ ": " ++ cause.message, some cause.trace⟩] []
      (.ok ())) :
    RunM.Adds host (RunM.fail host message cause) Q := by
  intro p
  refine RunM.Yields.fail.mono ?_
  rintro calls r _ ⟨_, rfl, rfl, now, rfl⟩
  exact ⟨_, _, p.extend_events _ |>.symm, h (p.log.stamp now)⟩

/-- A step without calls is followed by the next one. -/
theorem seq {f : α → RunM m β} {S : List LogEvent → List SpaceResult → α → Prop}
    (hx : RunM.Adds host x fun calls events results r =>
      calls = [] ∧ ∃ a, r = .ok a ∧ S events results a)
    (hf : ∀ events results a, S events results a → RunM.Adds host (f a) fun calls later others r =>
      R calls (events ++ later) (results ++ others) r) :
    RunM.Adds host (x >>= f) R := by
  refine bind hx ?_ ?_
  · rintro _ events results a ⟨rfl, _, ⟨⟩, hs⟩
    exact hf _ _ _ hs
  · rintro _ _ _ _ ⟨-, _, ⟨⟩, -⟩

/-- A look at the cancellation ends the run or goes on. -/
theorem checkCancelled_bind {jobId : String} {f : Unit → RunM m β}
    (hstop : R [.check true] [] [] (.error (cancelledJob jobId)))
    (hgo : RunM.Adds host (f ()) fun more events results r =>
      R (.check false :: more) events results r) :
    RunM.Adds host (RunM.checkCancelled host jobId >>= f) R :=
  fun p => RunM.Yields.checkCancelled_bind ⟨[], [], p.extend_nil.symm, hstop⟩ (hgo p)

end RunM.Adds

section

variable {m : Type → Type} [Monad m] {σ : Type} [Stateful m σ] (host : Host m)

theorem finishSpace_adds (space : SpaceSelection) (target : EntityReference)
    (migrated failed : Nat) :
    RunM.Adds host (finishSpace host space target migrated failed) fun calls events results r =>
      calls = [] ∧ r = .ok () ∧ results = [⟨space, target, migrated, failed⟩] ∧ ∃ stamp,
        events = [⟨.info, stamp, spaceMigrated space target migrated failed, none⟩] := by
  intro p
  rw [finishSpace]
  refine RunM.Yields.seq .modify ?_
  rintro _ _ _ ⟨rfl, rfl⟩
  refine RunM.Yields.note.mono ?_
  rintro calls r _ ⟨_, rfl, rfl, now, rfl⟩
  exact ⟨_, _, rfl, rfl, rfl, rfl, p.log.stamp now, rfl⟩

theorem nextDocument_adds (space : SpaceSelection) (target : EntityReference)
    (migrated failed : Nat) (documentIds : List String) :
    RunM.Adds host (nextDocument host space target migrated failed documentIds)
      fun calls events results r => calls = [] ∧ ∃ next, r = .ok next ∧
        NextTranscript space target migrated failed documentIds events results next := by
  cases documentIds with
  | nil =>
    rw [nextDocument]
    refine (finishSpace_adds host space target migrated failed).bind ?_ ?_
    · rintro _ _ _ _ ⟨rfl, -, rfl, stamp, rfl⟩
      exact .pure ⟨rfl, none, rfl, .ends stamp⟩
    · rintro _ _ _ _ ⟨-, ⟨⟩, -⟩
  | cons documentId rest =>
    exact .pure ⟨rfl, _, rfl, .goesOn documentId rest⟩

/-- What became of a document is written down, unless it ends the run. -/
theorem settleDocument_adds (spaceKey documentId : String) (outcome : Except MigrationError Tally) :
    RunM.Adds host (settleDocument host spaceKey documentId outcome) fun calls events results r =>
      calls = [] ∧ results = [] ∧
        ((∃ e, outcome = .error e ∧ e.isInfrastructure = true ∧ events = [] ∧ r = .error e) ∨
        (∀ e, outcome = .error e → e.isInfrastructure = false) ∧
          r = .ok outcome.toOption.isSome ∧
          ∃ stamp, events = [settledEvent stamp spaceKey documentId outcome]) := by
  cases outcome with
  | ok tally =>
    refine RunM.Adds.seq (S := fun events results _ => results = [] ∧ ∃ stamp,
      events = [settledEvent stamp spaceKey documentId (.ok tally)])
      (.note fun stamp => ⟨rfl, (), rfl, rfl, stamp, rfl⟩) ?_
    rintro _ _ _ ⟨rfl, stamp, rfl⟩
    exact .pure ⟨rfl, rfl, .inr ⟨by simp, rfl, stamp, rfl⟩⟩
  | error e =>
    rw [settleDocument]
    cases he : e.isInfrastructure with
    | true =>
      simp only [↓reduceIte]
      exact .throw_bind ⟨rfl, rfl, .inl ⟨e, rfl, he, rfl, rfl⟩⟩
    | false =>
      simp only [Bool.false_eq_true, ↓reduceIte]
      refine RunM.Adds.seq (S := fun events results _ => results = [] ∧ ∃ stamp,
        events = [settledEvent stamp spaceKey documentId (.error e)])
        (.fail fun stamp => ⟨rfl, (), rfl, rfl, stamp, rfl⟩) ?_
      rintro _ _ _ ⟨rfl, stamp, rfl⟩
      exact .pure ⟨rfl, rfl, .inr ⟨by rintro _ ⟨⟩; exact he, rfl, stamp, rfl⟩⟩

/-- A document is loaded, unless an error ends the run. -/
theorem Position.load_adds (position : Position) (spaceKey : String) :
    RunM.Adds host (position.load host spaceKey) fun calls events results r =>
      events = [] ∧ results = [] ∧ ∃ loaded, calls = [.load spaceKey position.documentId loaded] ∧
        ((∃ e, loaded = .error e ∧ e.isInfrastructure = true ∧ r = .error e) ∨
        (∀ e, loaded = .error e → e.isInfrastructure = false) ∧ r = .ok loaded) := by
  refine .attempt_bind (.load spaceKey position.documentId) ?_
  rintro calls loaded rfl
  cases loaded with
  | ok document => exact .pure ⟨rfl, rfl, _, rfl, .inr ⟨by rintro _ ⟨⟩, rfl⟩⟩
  | error e =>
    cases he : e.isInfrastructure with
    | true =>
      simp only [he, ↓reduceIte]
      exact .throw_bind ⟨rfl, rfl, _, rfl, .inl ⟨e, rfl, he, rfl⟩⟩
    | false =>
      simp only [he, Bool.false_eq_true, ↓reduceIte]
      exact .pure ⟨rfl, rfl, _, rfl, .inr ⟨by rintro _ ⟨⟩; exact he, rfl⟩⟩

/-- What is loaded is saved, and the document is settled, or ends the run. -/
theorem Position.save_adds (position : Position) (spaceKey : String) (target : EntityReference)
    (loaded : Except MigrationError SourceDocument) :
    RunM.Adds host (position.save host spaceKey target loaded) fun calls events results r =>
      results = [] ∧ ∃ outcome,
        DocumentTranscript spaceKey target position.documentId
          (.load spaceKey position.documentId loaded :: calls) outcome ∧
        ((∃ e, outcome = .error e ∧ e.isInfrastructure = true ∧ events = [] ∧ r = .error e) ∨
        (∀ e, outcome = .error e → e.isInfrastructure = false) ∧
          r = .ok (position.count outcome.toOption.isSome) ∧
          ∃ stamp, events = [settledEvent stamp spaceKey position.documentId outcome]) := by
  have hsave : host.Yields (ExceptT.mk (pure loaded) >>= fun document =>
      saveDocument host spaceKey target document).run fun calls r =>
        DocumentTranscript spaceKey target position.documentId
          (.load spaceKey position.documentId loaded :: calls) r := by
    refine Host.Yields.bindExcept (Q := fun calls r => calls = [] ∧ r = loaded)
      (.pure ⟨rfl, rfl⟩) ?_ ?_
    · rintro _ document ⟨rfl, rfl⟩
      exact saveDocument_transcript host spaceKey target position.documentId document
    · rintro _ e ⟨rfl, rfl⟩
      exact .notLoaded e
  rw [Position.save]
  refine .attempt_bind hsave ?_
  intro calls outcome h
  refine (settleDocument_adds host spaceKey position.documentId outcome).bind ?_ ?_
  · rintro _ events _ migrated ⟨rfl, rfl, ⟨_, -, -, -, ⟨⟩⟩ | ⟨hplain, hmigrated, stamp, rfl⟩⟩
    obtain rfl := Except.ok.inj hmigrated
    refine .pure ⟨rfl, outcome, ?_, .inr ⟨hplain, rfl, stamp, rfl⟩⟩
    rwa [List.append_nil, List.append_nil]
  · rintro _ events _ e ⟨rfl, rfl, ⟨e', rfl, he, rfl, ⟨⟩⟩ | ⟨-, ⟨⟩, -⟩⟩
    refine ⟨rfl, _, ?_, .inl ⟨e, rfl, he, rfl, rfl⟩⟩
    rwa [List.append_nil]

/-- **Every turn has a transcript.** -/
theorem SpaceTask.step_adds (jobId : String) (task : SpaceTask) :
    RunM.Adds host (task.step host jobId)
      (StepTranscript jobId task.space task.target task.stage) := by
  obtain ⟨space, target, stage⟩ := task
  cases stage with
  | toEnter => exact .checkCancelled_bind .cancelled (.pure .entered)
  | toCheck position => exact .checkCancelled_bind (.stopped position) (.pure (.checked position))
  | toList =>
    refine .attempt_bind (.list space.key) ?_
    rintro calls listed rfl
    cases listed with
    | error e =>
      cases he : e.isInfrastructure with
      | true =>
        simp only [he, ↓reduceIte]
        exact .throw_bind (.listAborted he)
      | false =>
        simp only [he, Bool.false_eq_true, ↓reduceIte]
        refine RunM.Adds.seq (S := fun events results _ => results = [] ∧ ∃ stamp, events =
          [⟨.error, stamp, spaceFailed space ++ ": " ++ e.message, some e.trace⟩])
          (.fail fun stamp => ⟨rfl, (), rfl, rfl, stamp, rfl⟩) ?_
        rintro _ _ _ ⟨rfl, stamp, rfl⟩
        exact .pure (.notListed stamp he)
    | ok documentIds =>
      refine (nextDocument_adds host space target 0 0 documentIds).mono ?_
      rintro _ events results r ⟨rfl, next, rfl, h⟩
      exact .listed h
  | toLoad position =>
    refine (position.load_adds host space.key).bind ?_ ?_
    · rintro _ _ _ loaded ⟨rfl, rfl, _, rfl, ⟨_, -, -, ⟨⟩⟩ | ⟨hplain, ⟨⟩⟩⟩
      exact .pure (.loaded position loaded hplain)
    · rintro _ _ _ e ⟨rfl, rfl, _, rfl, ⟨_, rfl, he, ⟨⟩⟩ | ⟨-, ⟨⟩⟩⟩
      exact .loadAborted position he
  | toSave position loaded =>
    refine (position.save_adds host space.key target loaded).bind ?_ ?_
    · rintro calls events _ counts ⟨rfl, outcome, h, ⟨_, -, -, -, ⟨⟩⟩ |
        ⟨hplain, hcounts, stamp, rfl⟩⟩
      obtain rfl := Except.ok.inj hcounts
      refine (nextDocument_adds host space target _ _ position.rest).mono ?_
      rintro _ later others r ⟨rfl, next, rfl, hnext⟩
      rw [List.append_nil]
      exact .settled stamp h hplain hnext
    · rintro calls events _ e ⟨rfl, outcome, h, ⟨_, rfl, he, rfl, ⟨⟩⟩ | ⟨-, ⟨⟩, -⟩⟩
      exact .saveAborted h he

end

/-! ### Without waiting -/

section

variable {m : Type → Type} [Monad m] {σ : Type} [Stateful m σ] (host : Host m) (jobId : String)
  (task : SpaceTask)

/-- The other documents of a space, and the end of the space. -/
theorem SpaceTask.migrateDocuments_adds (migrated failed : Nat) (documentIds : List String)
    {finish : Nat × Nat → RunM m Unit}
    (hfinish : ∀ counts, finish counts =
      finishSpace host task.space task.target (migrated + counts.1) (failed + counts.2)) :
    RunM.Adds host (migrateDocuments host jobId task.space.key task.target documentIds >>= finish)
      (task.Rest jobId migrated failed documentIds) := by
  intro p
  refine (migrateDocuments_transcript host jobId task.space.key task.target documentIds p).bind
    ?_ ?_
  · intro calls counts p' h
    rw [hfinish]
    refine (finishSpace_adds host task.space task.target _ _ p').mono ?_
    rintro _ r _ ⟨_, _, rfl, rfl, rfl, rfl, stamp, rfl⟩
    obtain ⟨first, others, next, parts, hnext, hrun, hcalls, hclose⟩ :=
      h.exists_taskRun task stamp migrated failed
    rw [List.append_nil]
    exact ⟨_, _, hclose, first, others, next, parts, hnext, hrun, hcalls, rfl, rfl⟩
  · intro calls e p' h
    obtain ⟨first, others, next, parts, hnext, hrun, hcalls, hclose⟩ :=
      h.exists_taskRun task .epoch migrated failed
    exact ⟨_, _, hclose, first, others, next, parts, hnext, hrun, hcalls, rfl, rfl⟩

/-- What is left of a space that has loaded a document. -/
theorem SpaceTask.saveAndComplete_adds (position : Position)
    (loaded : Except MigrationError SourceDocument) :
    RunM.Adds host (do
        let (migrated, failed) ← position.save host task.space.key task.target loaded
        task.completeDocuments host jobId migrated failed position.rest)
      ((task.goOn (.toSave position loaded)).Completes jobId) := by
  refine (position.save_adds host task.space.key task.target loaded).bind ?_ ?_
  · rintro calls events _ counts ⟨rfl, outcome, h, ⟨_, -, -, -, ⟨⟩⟩ | ⟨hplain, hcounts, stamp, rfl⟩⟩
    obtain rfl := Except.ok.inj hcounts
    refine (task.migrateDocuments_adds host jobId _ _ position.rest fun _ => rfl).mono ?_
    intro more later others r hrest
    exact .of_rest (task.goOn (.toSave position loaded)) [_]
      (fun _ _ _ hnext => .settled stamp h hplain hnext) hrest
  · rintro calls events _ e ⟨rfl, outcome, h, ⟨_, rfl, he, rfl, ⟨⟩⟩ | ⟨-, ⟨⟩, -⟩⟩
    exact .stopped (.saveAborted h he)

/-- **What is left of a space is done in turns of the space.** -/
theorem SpaceTask.complete_adds : RunM.Adds host (task.complete host jobId)
    (task.Completes jobId) := by
  have hlisted : RunM.Adds host (migrateListed host jobId task.space task.target)
      ((task.goOn .toList).Completes jobId) := by
    rw [migrateListed]
    refine .attempt_bind (.list task.space.key) ?_
    rintro calls listed rfl
    cases listed with
    | error e =>
      cases he : e.isInfrastructure with
      | true =>
        simp only [he, ↓reduceIte]
        exact .throw_bind (.stopped (.listAborted he))
      | false =>
        simp only [he, Bool.false_eq_true, ↓reduceIte]
        exact .fail fun stamp => ⟨[task.part _ _ _],
          .next ⟨rfl, .notListed stamp he⟩ .ended, rfl, rfl, rfl⟩
    | ok documentIds =>
      refine (task.migrateDocuments_adds host jobId 0 0 documentIds fun counts => ?_).mono ?_
      · rw [Nat.zero_add, Nat.zero_add]
      · intro more later others r hrest
        exact .of_rest (task.goOn .toList) [] (fun _ _ _ hnext => .listed hnext) hrest
  obtain ⟨space, target, stage⟩ := task
  cases stage with
  | toEnter =>
    refine .checkCancelled_bind (.stopped .cancelled) (hlisted.mono ?_)
    intro more later others r hrest
    exact .next .entered hrest
  | toList => exact hlisted
  | toCheck position =>
    refine (migrateDocuments_adds host jobId _ _ _ _ fun _ => rfl).mono ?_
    intro more later others r hrest
    exact .of_cons hrest
  | toLoad position =>
    refine (position.load_adds host space.key).bind ?_ ?_
    · rintro _ _ _ loaded ⟨rfl, rfl, _, rfl, ⟨_, -, -, ⟨⟩⟩ | ⟨hplain, ⟨⟩⟩⟩
      refine (saveAndComplete_adds host jobId _ position loaded).mono ?_
      intro more later others r hrest
      exact .next (.loaded position loaded hplain) hrest
    · rintro _ _ _ e ⟨rfl, rfl, _, rfl, ⟨_, rfl, he, ⟨⟩⟩ | ⟨-, ⟨⟩⟩⟩
      exact .stopped (.loadAborted position he)
  | toSave position loaded => exact saveAndComplete_adds host jobId _ position loaded

end

/-! ### All turns -/

section

variable {m : Type → Type} [Monad m] {σ : Type} [Stateful m σ] (host : Host m) (jobId : String)

theorem completeSpaces_adds (room : Nat) (tasks : List SpaceTask) :
    RunM.Adds host (completeSpaces host jobId tasks) fun calls events results r =>
      ∃ parts, TurnsTranscript jobId room [] tasks parts r ∧ Joins parts calls events results := by
  induction tasks with
  | nil => exact .pure ⟨[], .done [], rfl, rfl, rfl⟩
  | cons task rest ih =>
    rw [completeSpaces]
    refine (task.complete_adds host jobId).bind ?_ ?_
    · rintro calls events results ⟨⟩ ⟨parts, hrun, hjoins⟩
      refine ih.mono ?_
      rintro more later others r ⟨others, hrest, hmore⟩
      exact ⟨parts ++ others, hrun.append hrest, hjoins.append hmore⟩
    · rintro calls events results e ⟨parts, hrun, hjoins⟩
      exact ⟨parts, hrun.stops rest, hjoins⟩

/-- **Spaces that take turns have a transcript.** -/
theorem migrateInTurns_adds (room : Nat) (turns : List Nat) (tasks : List SpaceTask) :
    RunM.Adds host (migrateInTurns host jobId room turns tasks) fun calls events results r =>
      ∃ parts, TurnsTranscript jobId room turns tasks parts r ∧
        Joins parts calls events results := by
  induction turns generalizing tasks with
  | nil => exact completeSpaces_adds host jobId room tasks
  | cons number turns ih =>
    cases tasks with
    | nil =>
      rw [migrateInTurns, Turn.of?_nil]
      exact .pure ⟨[], .done _, rfl, rfl, rfl⟩
    | cons task rest =>
      obtain ⟨turn, hturn⟩ := Turn.exists_of?_cons room (number :: turns) task rest
      simp only [migrateInTurns, hturn]
      refine (turn.task.step_adds host jobId).bind ?_ ?_
      · intro calls events results next h
        refine (ih _).mono ?_
        rintro more later others r ⟨parts, hrest, hjoins⟩
        exact ⟨turn.task.part calls events results :: parts, .next hturn ⟨rfl, h⟩ hrest,
          hjoins.cons _⟩
      · intro calls events results e h
        exact ⟨[turn.task.part calls events results], .stopped hturn ⟨rfl, h⟩,
          List.flatMap_singleton .., List.flatMap_singleton .., List.flatMap_singleton ..⟩

/-- **Every run in turns has a transcript.** -/
theorem MigrationJob.runInTurns_transcript (job : MigrationJob) (turns : List Nat) :
    host.Yields (job.runInTurns turns host) (TurnsRun job turns) := by
  have hsteps : RunM.Yields host (job.executeInTurns turns host) ⟨.empty, []⟩ fun calls r p =>
      ∃ opened parts, TurnsTranscript job.id job.maxParallelSpaces turns
          (job.effectiveAnswer.entries.map .entering) parts r ∧
        parts.flatMap (·.calls) = calls ∧
        p = ⟨⟨(job.opening opened).log.events ++ parts.flatMap (·.events)⟩,
          parts.flatMap (·.results)⟩ := by
    rw [executeInTurns]
    refine RunM.Yields.seq .note ?_
    rintro _ _ _ ⟨rfl, opened, rfl⟩
    refine (migrateInTurns_adds host job.id _ turns _ _).mono ?_
    rintro calls r _ ⟨_, _, rfl, parts, h, hcalls, rfl, rfl⟩
    exact ⟨opened, parts, h, hcalls, rfl⟩
  refine (job.runWith_ends host hsteps).mono ?_
  rintro _ _ (⟨startedAt, now, finishedAt⟩ | @⟨calls, outcome, p, startedAt, now, finishedAt, h⟩)
  · exact .cancelled startedAt now finishedAt
  · obtain ⟨opened, parts, h, rfl, rfl⟩ := h
    exact .ended startedAt opened now finishedAt h

/-- **Without turns, one space is migrated after another.** -/
theorem MigrationJob.runInTurns_nil (job : MigrationJob) :
    job.runInTurns [] host = job.run host := by
  have hspaces (entries : List (SpaceSelection × EntityReference)) :
      completeSpaces host job.id (entries.map .entering) = migrateSpaces host job.id entries := by
    induction entries with
    | nil => rfl
    | cons entry rest ih =>
      rw [List.map_cons, completeSpaces, migrateSpaces, ih]
      rfl
  have hsteps : job.executeInTurns [] host = job.execute host := by
    rw [executeInTurns, execute, migrateInTurns, hspaces]
  rw [runInTurns, run, hsteps]

/-- The trace of an observed run in turns is that of its transcript, and a path of the host that was
observed. -/
theorem MigrationJob.observed_turnsRun (job : MigrationJob) (turns : List Nat) (s : σ) :
    TurnsRun job turns (exec ((job.runInTurns turns host.observed).run []) s).1.2
        (exec ((job.runInTurns turns host.observed).run []) s).1.1 ∧
      host.Path s (exec ((job.runInTurns turns host.observed).run []) s).1.2
        (exec ((job.runInTurns turns host.observed).run []) s).2 := by
  obtain ⟨calls, hpath, h⟩ := job.runInTurns_transcript host.observed turns ([], s)
  obtain ⟨htrace, hpath⟩ := hpath.of_observed
  rw [exec_stateT] at htrace hpath h
  rw [List.nil_append] at htrace
  subst htrace
  exact ⟨h, hpath⟩

/-- An observed run that migrates one space after another is one without turns. -/
theorem MigrationJob.observed_turnsRun_nil (job : MigrationJob) (s : σ) :
    TurnsRun job [] (exec ((job.run host.observed).run []) s).1.2
        (exec ((job.run host.observed).run []) s).1.1 ∧
      host.Path s (exec ((job.run host.observed).run []) s).1.2
        (exec ((job.run host.observed).run []) s).2 := by
  rw [← job.runInTurns_nil host.observed]
  exact job.observed_turnsRun host [] s

/-- An observed run in turns behind a script of faults has a transcript. -/
theorem MigrationJob.disturbed_turnsRun {σ : Type} (job : MigrationJob) (turns : List Nat)
    (host : Host (StateM σ)) (faults : List Fault) (cancelled : Bool) (world : σ) :
    let (((snapshot, calls), _), _) :=
      (((job.runInTurns turns (host.disturbed faults).observed).run []).run cancelled).run world
    TurnsRun job turns calls snapshot :=
  (job.observed_turnsRun (host.disturbed faults) turns (cancelled, world, ())).1

end

end SpaceMigration
