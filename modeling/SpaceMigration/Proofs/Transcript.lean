import SpaceMigration.Job.Run
import SpaceMigration.Proofs.Stateful

/-!
# Transcripts of runs

What a run does, as rules: which calls it makes to its host, in which order, and what their results
lead to. There is one relation for each level of a run, from the blocks of a document to the whole
job, with one rule for each way through the level. The relations know nothing of the host. They
relate the calls *with their results* to the outcome, so a host is any source of results.

`MigrationJob.run_transcript` is the bridge: over every host, a run makes the calls of a transcript
and returns its snapshot. Statements about runs are proved by induction on transcripts, and no
other proof opens the run itself.

## What is left open

The readings of the clock. A rule that appends to the log does so at some time, which the transcript
does not bind; the timestamps of the log are the business of `JobLog`.

## Main definitions

* `BlocksTranscript`, `DocumentTranscript`, `DocumentsTranscript` — a document, and those of a space
* `SpaceTranscript`, `SpacesTranscript` — a space, and those of an answer
* `RunTranscript` — the whole run, with its snapshot

## Main results

* `MigrationJob.run_transcript` — every run has a transcript
* `MigrationJob.observed_transcript` — the trace of an observed run is that of its transcript
-/

namespace SpaceMigration

open Stateful (exec exec_pure exec_bind exec_stateT exec_lift exec_modify)

/-! ### The rules -/

/-- The error of a run that finds its job cancelled. -/
def cancelledJob (jobId : String) : MigrationError :=
  ⟨.cancelled, "job " ++ jobId⟩

/-- The document that is saved for a source document, given its converted content. -/
def SourceDocument.migrated (document : SourceDocument) (spaceKey : String)
    (target : EntityReference) (content : String) : TargetDocument where
  reference := target.child document.id
  title := document.title
  content := content
  metadata := document.metadata? spaceKey

/-- The blocks of a document: text is copied, and each macro is offered for conversion until one
fails. -/
inductive BlocksTranscript :
    List ContentBlock → List Call → Except MigrationError (String × Tally) → Prop
  | nil : BlocksTranscript [] [] (.ok ("", ⟨0, 0⟩))
  | text {rest calls r} (content : String) (h : BlocksTranscript rest calls r) :
      BlocksTranscript (.text content :: rest) calls
        (r.map fun tail => (content ++ tail.1, tail.2))
  | failed {rest} (o : Occurrence) (e : MigrationError) :
      BlocksTranscript (.call o :: rest) [.convert o (.error e)] (.error e)
  | replaced {rest calls r} (o : Occurrence) (replacement : Replacement)
      (h : BlocksTranscript rest calls r) :
      BlocksTranscript (.call o :: rest) (.convert o (.ok (.replaced replacement)) :: calls)
        (r.map fun tail =>
          (replacement.toCall ++ tail.1, { tail.2 with replaced := tail.2.replaced + 1 }))
  | kept {rest calls r} (o : Occurrence) (h : BlocksTranscript rest calls r) :
      BlocksTranscript (.call o :: rest) (.convert o (.ok .unchanged) :: calls)
        (r.map fun tail => (o.toCall ++ tail.1, { tail.2 with kept := tail.2.kept + 1 }))

/-- A document: it is loaded, converted and saved, up to the first of these that fails. -/
inductive DocumentTranscript (spaceKey : String) (target : EntityReference) (documentId : String) :
    List Call → Except MigrationError Tally → Prop
  | notLoaded (e : MigrationError) :
      DocumentTranscript spaceKey target documentId [.load spaceKey documentId (.error e)]
        (.error e)
  | notConverted {document calls e} (h : BlocksTranscript document.content calls (.error e)) :
      DocumentTranscript spaceKey target documentId
        (.load spaceKey documentId (.ok document) :: calls) (.error e)
  | saved {document calls content tally}
      (h : BlocksTranscript document.content calls (.ok (content, tally)))
      (result : Except MigrationError Unit) :
      DocumentTranscript spaceKey target documentId
        (.load spaceKey documentId (.ok document) ::
          (calls ++ [.save (document.migrated spaceKey target content) result]))
        (result.map fun _ => tally)

/-- The listed documents of a space: before each one the run looks whether it is cancelled, and
after it goes on unless the document ended in an infrastructure error. -/
inductive DocumentsTranscript (jobId spaceKey : String) (target : EntityReference) :
    List String → List Call → Progress → Except MigrationError (Nat × Nat) → Progress → Prop
  | nil (p : Progress) : DocumentsTranscript jobId spaceKey target [] [] p (.ok (0, 0)) p
  | cancelled (documentId : String) (rest : List String) (p : Progress) :
      DocumentsTranscript jobId spaceKey target (documentId :: rest) [.check true] p
        (.error (cancelledJob jobId)) p
  | aborted {documentId rest calls e} (p : Progress)
      (h : DocumentTranscript spaceKey target documentId calls (.error e))
      (he : e.isInfrastructure = true) :
      DocumentsTranscript jobId spaceKey target (documentId :: rest) (.check false :: calls) p
        (.error e) p
  | migrated {documentId rest calls more tally p r p'} (now : Timestamp)
      (h : DocumentTranscript spaceKey target documentId calls (.ok tally))
      (hrest : DocumentsTranscript jobId spaceKey target rest more
        { p with log := p.log.note now .debug (documentMigrated spaceKey documentId tally) } r p') :
      DocumentsTranscript jobId spaceKey target (documentId :: rest)
        (.check false :: (calls ++ more)) p (r.map fun counts => (counts.1 + 1, counts.2)) p'
  | failed {documentId rest calls more e p r p'} (now : Timestamp)
      (h : DocumentTranscript spaceKey target documentId calls (.error e))
      (he : e.isInfrastructure = false)
      (hrest : DocumentsTranscript jobId spaceKey target rest more
        { p with log := p.log.fail now (documentFailed spaceKey documentId) e } r p') :
      DocumentsTranscript jobId spaceKey target (documentId :: rest)
        (.check false :: (calls ++ more)) p (r.map fun counts => (counts.1, counts.2 + 1)) p'

/-- A space: the run looks whether it is cancelled, lists the documents and migrates them. -/
inductive SpaceTranscript (jobId : String) (space : SpaceSelection) (target : EntityReference) :
    List Call → Progress → Except MigrationError Unit → Progress → Prop
  | cancelled (p : Progress) :
      SpaceTranscript jobId space target [.check true] p (.error (cancelledJob jobId)) p
  | aborted (p : Progress) {e : MigrationError} (he : e.isInfrastructure = true) :
      SpaceTranscript jobId space target [.check false, .list space.key (.error e)] p (.error e) p
  | notListed (p : Progress) (now : Timestamp) {e : MigrationError}
      (he : e.isInfrastructure = false) :
      SpaceTranscript jobId space target [.check false, .list space.key (.error e)] p (.ok ())
        { p with log := p.log.fail now (spaceFailed space) e }
  | interrupted {documentIds calls p e p'}
      (h : DocumentsTranscript jobId space.key target documentIds calls p (.error e) p') :
      SpaceTranscript jobId space target
        (.check false :: .list space.key (.ok documentIds) :: calls) p (.error e) p'
  | finished {documentIds calls p migrated failed p'} (now : Timestamp)
      (h : DocumentsTranscript jobId space.key target documentIds calls p
        (.ok (migrated, failed)) p') :
      SpaceTranscript jobId space target
        (.check false :: .list space.key (.ok documentIds) :: calls) p (.ok ())
        { log := p'.log.note now .info (spaceMigrated space target migrated failed)
          results := p'.results ++ [⟨space, target, migrated, failed⟩] }

/-- The spaces of an answer, one after another, up to the first that ends the run. -/
inductive SpacesTranscript (jobId : String) :
    List (SpaceSelection × EntityReference) → List Call → Progress →
      Except MigrationError Unit → Progress → Prop
  | nil (p : Progress) : SpacesTranscript jobId [] [] p (.ok ()) p
  | stopped {entry rest calls p e p'}
      (h : SpaceTranscript jobId entry.1 entry.2 calls p (.error e) p') :
      SpacesTranscript jobId (entry :: rest) calls p (.error e) p'
  | next {entry rest calls more p p' r p''}
      (h : SpaceTranscript jobId entry.1 entry.2 calls p (.ok ()) p')
      (hrest : SpacesTranscript jobId rest more p' r p'') :
      SpacesTranscript jobId (entry :: rest) (calls ++ more) p r p''

/-- The frozen end of a job. -/
def MigrationJob.frozen (job : MigrationJob) (answer : SpaceAnswer) (state : JobState)
    (results : List SpaceResult) (log : JobLog) (startedAt finishedAt : Timestamp) :
    JobSnapshot where
  id := job.id
  jobType := migrationJobType
  request := job.request
  answer := answer
  state := state
  results := results
  log := log.events
  startedAt := startedAt
  finishedAt := finishedAt

/-- What a run has produced when it comes to its first space. -/
def MigrationJob.opening (job : MigrationJob) (now : Timestamp) : Progress where
  log := JobLog.empty.note now .info
    (started job.effectiveAnswer.entries.length job.request.targetRoot)
  results := []

/-- The words in front of the error that ends a run. -/
def abortMessage (e : MigrationError) : String :=
  if e.kind = .cancelled then "Migration cancelled" else "Migration aborted"

/-- The log of a run with its last event. -/
def closeLog (outcome : Except MigrationError Unit) (now : Timestamp) (log : JobLog) : JobLog :=
  match outcome with
  | .ok () => log.note now .info "Migration finished"
  | .error e => log.fail now (abortMessage e) e

/-- A whole run: it looks whether it is cancelled, migrates the spaces of the answer, and closes its
log. -/
inductive RunTranscript (job : MigrationJob) : List Call → JobSnapshot → Prop
  | cancelled (startedAt now finishedAt : Timestamp) :
      RunTranscript job [.check true]
        (job.frozen (job.answer.getD .empty) .finishedFailure []
          (JobLog.empty.fail now "Migration cancelled" (cancelledJob job.id)) startedAt finishedAt)
  | aborted {calls e p} (startedAt opened now finishedAt : Timestamp)
      (h : SpacesTranscript job.id job.effectiveAnswer.entries calls (job.opening opened)
        (.error e) p) :
      RunTranscript job (.check false :: calls)
        (job.frozen job.effectiveAnswer .finishedFailure p.results
          (p.log.fail now (abortMessage e) e) startedAt finishedAt)
  | finished {calls p} (startedAt opened now finishedAt : Timestamp)
      (h : SpacesTranscript job.id job.effectiveAnswer.entries calls (job.opening opened)
        (.ok ()) p) :
      RunTranscript job (.check false :: calls)
        (job.frozen job.effectiveAnswer .finishedSuccess p.results
          (p.log.note now .info "Migration finished") startedAt finishedAt)

/-! ### Steps of a run

A step of a run sits on two layers, its error and its progress. The rules of `Host.Yields` are
restated for it, with the progress before the step given and the progress after it bound. -/

section Steps

variable {m : Type → Type} [Monad m] {σ : Type} [Stateful m σ] {host : Host m} {α β : Type}

/-- What an action that may fail yields. -/
theorem Host.Yields.bindExcept {x : ExceptT MigrationError m α}
    {f : α → ExceptT MigrationError m β} {Q : List Call → Except MigrationError α → Prop}
    {R : List Call → Except MigrationError β → Prop} (hx : host.Yields x.run Q)
    (hok : ∀ calls a, Q calls (.ok a) → host.Yields (f a).run fun more r => R (calls ++ more) r)
    (herror : ∀ calls e, Q calls (.error e) → R calls (.error e)) :
    host.Yields (x >>= f).run R := by
  rw [ExceptT.run_bind]
  refine hx.bind ?_
  intro calls r hq
  cases r with
  | ok a => exact hok calls a hq
  | error e => exact .pure (by simpa using herror calls e hq)

/-- An action whose value is used goes on with the calls of the action alone. -/
theorem Host.Yields.mapExcept {x : ExceptT MigrationError m α} {f : α → β}
    {R : List Call → Except MigrationError β → Prop}
    (hx : host.Yields x.run fun calls r => R calls (r.map f)) :
    host.Yields (x >>= fun a => Pure.pure (f a)).run R := by
  refine hx.bindExcept ?_ ?_
  · intro calls a hr
    exact .pure (by simpa [Except.map] using hr)
  · intro calls e hr
    exact hr

/-- What a step of a run yields when it starts with the progress `p`. -/
def RunM.Yields (host : Host m) (x : RunM m α) (p : Progress)
    (Q : List Call → Except MigrationError α → Progress → Prop) : Prop :=
  host.Yields (x.run.run p) fun calls r => Q calls r.1 r.2

namespace RunM.Yields

variable {x : RunM m α} {p : Progress} {Q : List Call → Except MigrationError α → Progress → Prop}

theorem mono {Q' : List Call → Except MigrationError α → Progress → Prop}
    (h : RunM.Yields host x p Q) (hQ : ∀ calls r p', Q calls r p' → Q' calls r p') :
    RunM.Yields host x p Q' :=
  Host.Yields.mono h fun calls r => hQ calls r.1 r.2

theorem pure {a : α} (h : Q [] (.ok a) p) : RunM.Yields host (Pure.pure a : RunM m α) p Q :=
  Host.Yields.pure (a := (Except.ok a, p)) h

theorem throw {e : MigrationError} (h : Q [] (.error e) p) :
    RunM.Yields host (MonadExcept.throw e : RunM m α) p Q :=
  Host.Yields.pure (a := (Except.error e, p)) h

theorem bind {f : α → RunM m β} {R : List Call → Except MigrationError β → Progress → Prop}
    (hx : RunM.Yields host x p Q)
    (hok : ∀ calls a p', Q calls (.ok a) p' →
      RunM.Yields host (f a) p' fun more r p'' => R (calls ++ more) r p'')
    (herror : ∀ calls e p', Q calls (.error e) p' → R calls (.error e) p') :
    RunM.Yields host (x >>= f) p R := by
  unfold RunM.Yields
  rw [ExceptT.run_bind, StateT.run_bind]
  refine Host.Yields.bind hx ?_
  rintro calls ⟨r, p'⟩ hq
  cases r with
  | ok a => exact hok calls a p' hq
  | error e => exact Host.Yields.pure (a := (Except.error e, p')) (by simpa using herror _ _ _ hq)

/-- A step whose value is used goes on with the calls and the progress of the step alone. -/
theorem map {f : α → β} {R : List Call → Except MigrationError β → Progress → Prop}
    (hx : RunM.Yields host x p fun calls r p' => R calls (r.map f) p') :
    RunM.Yields host (x >>= fun a => Pure.pure (f a)) p R := by
  refine bind hx ?_ ?_
  · intro calls a p' hr
    exact .pure (by simpa [Except.map] using hr)
  · intro calls e p' hr
    exact hr

/-- Nothing follows an error. -/
theorem throw_bind {e : MigrationError} {f : α → RunM m β}
    {R : List Call → Except MigrationError β → Progress → Prop} (h : R [] (.error e) p) :
    RunM.Yields host ((MonadExcept.throw e : RunM m α) >>= f) p R := by
  refine bind (Q := fun calls r p' => calls = [] ∧ r = .error e ∧ p' = p)
    (.throw ⟨rfl, rfl, rfl⟩) ?_ ?_
  · intro calls a p' hq
    cases hq.2.1
  · rintro calls e' p' ⟨rfl, he, rfl⟩
    cases he
    exact h

/-- A step that cannot fail is followed by the next one. -/
theorem seq {f : α → RunM m β} {R : List Call → Except MigrationError β → Progress → Prop}
    {Q : List Call → α → Progress → Prop}
    (hx : RunM.Yields host x p fun calls r p' => ∃ a, r = .ok a ∧ Q calls a p')
    (hf : ∀ calls a p', Q calls a p' →
      RunM.Yields host (f a) p' fun more r p'' => R (calls ++ more) r p'') :
    RunM.Yields host (x >>= f) p R := by
  refine bind hx ?_ ?_
  · rintro calls a p' ⟨b, hb, hq⟩
    cases hb
    exact hf _ _ _ hq
  · rintro calls e p' ⟨b, hb, -⟩
    cases hb

theorem attempt {call : m α} {Q : List Call → α → Prop} (h : host.Yields call Q) :
    RunM.Yields host (RunM.attempt call) p fun calls r p' =>
      ∃ a, r = .ok a ∧ Q calls a ∧ p' = p := by
  have hrun : (RunM.attempt call : RunM m α).run.run p =
      (call >>= fun a => Pure.pure (a, p)) >>= fun b => Pure.pure (Except.ok b.1, b.2) := rfl
  unfold RunM.Yields
  rw [hrun]
  refine (h.bind (R := fun calls b => Q calls b.1 ∧ b.2 = p) fun calls a hq =>
    .pure ⟨by simpa using hq, rfl⟩).bind fun calls b hb => .pure ?_
  exact ⟨b.1, rfl, by simpa using hb.1, hb.2⟩

theorem modify {f : Progress → Progress} :
    RunM.Yields host (modifyGet fun p => ((), f p) : RunM m Unit) p fun calls r p' =>
      ∃ a, r = .ok a ∧ calls = [] ∧ p' = f p := by
  have hrun : (modifyGet fun p => ((), f p) : RunM m Unit).run.run p =
      (Pure.pure ((), f p) : m (Unit × Progress)) >>= fun b =>
        Pure.pure (Except.ok b.1, b.2) := rfl
  unfold RunM.Yields
  rw [hrun]
  exact (Host.Yields.pure (Q := fun calls b => calls = [] ∧ b = ((), f p)) ⟨rfl, rfl⟩).bind
    fun calls b hb => .pure ⟨(), rfl, by simpa using hb.1, by rw [hb.2]⟩

theorem logged {write : JobLog → Timestamp → JobLog} :
    RunM.Yields host (RunM.logged host write) p fun calls r p' =>
      ∃ a, r = .ok a ∧ calls = [] ∧ ∃ now, p' = { p with log := write p.log now } := by
  refine seq (attempt .clock) ?_
  rintro calls now p' ⟨rfl, rfl⟩
  refine modify.mono ?_
  rintro calls r p'' ⟨a, ha, rfl, hp⟩
  exact ⟨a, ha, rfl, now, hp⟩

theorem note {level : LogLevel} {message : String} :
    RunM.Yields host (RunM.note host level message) p fun calls r p' =>
      ∃ a, r = .ok a ∧ calls = [] ∧ ∃ now, p' = { p with log := p.log.note now level message } :=
  logged

theorem fail {message : String} {cause : MigrationError} :
    RunM.Yields host (RunM.fail host message cause) p fun calls r p' =>
      ∃ a, r = .ok a ∧ calls = [] ∧ ∃ now, p' = { p with log := p.log.fail now message cause } :=
  logged

theorem checkCancelled {jobId : String} :
    RunM.Yields host (RunM.checkCancelled host jobId) p fun calls r p' =>
      p' = p ∧ (calls = [.check false] ∧ r = .ok () ∨
        calls = [.check true] ∧ r = .error (cancelledJob jobId)) := by
  refine seq (attempt .isCancelled) ?_
  rintro calls cancelled p' ⟨rfl, rfl⟩
  cases cancelled with
  | false => exact .pure ⟨rfl, .inl ⟨rfl, rfl⟩⟩
  | true => exact .throw ⟨rfl, .inr ⟨rfl, rfl⟩⟩

/-- A look at the cancellation ends the run or goes on. -/
theorem checkCancelled_bind {jobId : String} {f : Unit → RunM m β}
    {R : List Call → Except MigrationError β → Progress → Prop}
    (hstop : R [.check true] (.error (cancelledJob jobId)) p)
    (hgo : RunM.Yields host (f ()) p fun more r p' => R (.check false :: more) r p') :
    RunM.Yields host (RunM.checkCancelled host jobId >>= f) p R := by
  refine bind checkCancelled ?_ ?_
  · rintro calls a p' ⟨rfl, ⟨rfl, -⟩ | ⟨-, ha⟩⟩
    · exact hgo
    · cases ha
  · rintro calls e p' ⟨rfl, ⟨-, he⟩ | ⟨rfl, he⟩⟩
    · cases he
    · cases he
      exact hstop

end RunM.Yields

end Steps

/-! ### Every run has a transcript -/

section Runs

variable {m : Type → Type} [Monad m] {σ : Type} [Stateful m σ] (host : Host m)

theorem convertBlocks_transcript (blocks : List ContentBlock) :
    host.Yields (convertBlocks host blocks).run (BlocksTranscript blocks) := by
  induction blocks with
  | nil => exact .pure .nil
  | cons block rest ih =>
    cases block with
    | text content =>
      rw [convertBlocks]
      refine Host.Yields.mapExcept (x := convertBlocks host rest)
        (f := fun tail => (content ++ tail.1, tail.2)) ?_
      exact ih.mono fun calls r h => .text content h
    | call o =>
      rw [convertBlocks]
      refine Host.Yields.bindExcept (.convert o) ?_ ?_
      · rintro calls conversion rfl
        cases conversion with
        | replaced replacement =>
          refine Host.Yields.mapExcept (x := convertBlocks host rest) (f := fun tail =>
            (replacement.toCall ++ tail.1, { tail.2 with replaced := tail.2.replaced + 1 })) ?_
          exact ih.mono fun calls r h => .replaced o replacement h
        | unchanged =>
          refine Host.Yields.mapExcept (x := convertBlocks host rest) (f := fun tail =>
            (o.toCall ++ tail.1, { tail.2 with kept := tail.2.kept + 1 })) ?_
          exact ih.mono fun calls r h => .kept o h
      · rintro calls e rfl
        exact .failed o e

/-- What is left of a document once it is loaded. -/
theorem saveDocument_transcript (spaceKey : String) (target : EntityReference)
    (documentId : String) (document : SourceDocument) :
    host.Yields (saveDocument host spaceKey target document).run fun calls r =>
      DocumentTranscript spaceKey target documentId
        (.load spaceKey documentId (.ok document) :: calls) r := by
  rw [saveDocument]
  refine (convertBlocks_transcript host document.content).bindExcept ?_ ?_
  · rintro calls ⟨content, tally⟩ h
    refine Host.Yields.mapExcept (f := fun _ => tally) ?_
    refine Host.Yields.mono (.save (document.migrated spaceKey target content)) ?_
    rintro calls result rfl
    exact .saved h result
  · intro calls e h
    exact .notConverted h

theorem migrateDocument_transcript (spaceKey : String) (target : EntityReference)
    (documentId : String) :
    host.Yields (migrateDocument host spaceKey target documentId).run
      (DocumentTranscript spaceKey target documentId) := by
  rw [migrateDocument]
  refine Host.Yields.bindExcept (.load spaceKey documentId) ?_ ?_
  · rintro calls document rfl
    exact saveDocument_transcript host spaceKey target documentId document
  · rintro calls e rfl
    exact .notLoaded e

theorem migrateDocuments_transcript (jobId spaceKey : String) (target : EntityReference)
    (documentIds : List String) (p : Progress) :
    RunM.Yields host (migrateDocuments host jobId spaceKey target documentIds) p
      fun calls r p' => DocumentsTranscript jobId spaceKey target documentIds calls p r p' := by
  induction documentIds generalizing p with
  | nil => exact .pure (.nil p)
  | cons documentId rest ih =>
    rw [migrateDocuments]
    refine RunM.Yields.checkCancelled_bind (.cancelled documentId rest p) ?_
    refine RunM.Yields.seq
      (.attempt (migrateDocument_transcript host spaceKey target documentId)) ?_
    rintro calls outcome p' ⟨h, rfl⟩
    cases outcome with
    | ok tally =>
      refine RunM.Yields.seq .note ?_
      rintro calls' _ p'' ⟨rfl, now, rfl⟩
      refine RunM.Yields.map (f := fun counts => (counts.1 + 1, counts.2)) ((ih _).mono ?_)
      intro more r p'' hrest
      simpa using DocumentsTranscript.migrated now h hrest
    | error e =>
      cases he : e.isInfrastructure with
      | true =>
        simp only [he, ↓reduceIte]
        exact .throw_bind (by simpa using DocumentsTranscript.aborted p' h he)
      | false =>
        simp only [he, Bool.false_eq_true, ↓reduceIte]
        refine RunM.Yields.seq .fail ?_
        rintro calls' _ p'' ⟨rfl, now, rfl⟩
        refine RunM.Yields.map (f := fun counts => (counts.1, counts.2 + 1)) ((ih _).mono ?_)
        intro more r p'' hrest
        simpa using DocumentsTranscript.failed now h he hrest

theorem migrateSpace_transcript (jobId : String) (space : SpaceSelection)
    (target : EntityReference) (p : Progress) :
    RunM.Yields host (migrateSpace host jobId space target) p
      fun calls r p' => SpaceTranscript jobId space target calls p r p' := by
  rw [migrateSpace]
  refine RunM.Yields.checkCancelled_bind (.cancelled p) ?_
  refine RunM.Yields.seq (.attempt (.list space.key)) ?_
  rintro calls listed p' ⟨rfl, rfl⟩
  cases listed with
  | error e =>
    cases he : e.isInfrastructure with
    | true =>
      simp only [he, ↓reduceIte]
      exact .throw_bind (by simpa using SpaceTranscript.aborted p' he)
    | false =>
      simp only [he, Bool.false_eq_true, ↓reduceIte]
      refine RunM.Yields.mono .fail ?_
      rintro calls r q ⟨_, rfl, rfl, now, rfl⟩
      simpa using SpaceTranscript.notListed p' now he
  | ok documentIds =>
    refine (migrateDocuments_transcript host jobId space.key target documentIds p').bind ?_ ?_
    · intro calls counts q h
      refine RunM.Yields.seq .modify ?_
      rintro calls' _ q' ⟨rfl, rfl⟩
      refine RunM.Yields.mono .note ?_
      rintro calls'' r q'' ⟨_, rfl, rfl, now, rfl⟩
      simpa using SpaceTranscript.finished now h
    · intro calls e q h
      simpa using SpaceTranscript.interrupted h

theorem migrateSpaces_transcript (jobId : String)
    (entries : List (SpaceSelection × EntityReference)) (p : Progress) :
    RunM.Yields host (migrateSpaces host jobId entries) p
      fun calls r p' => SpacesTranscript jobId entries calls p r p' := by
  induction entries generalizing p with
  | nil => exact .pure (.nil p)
  | cons entry rest ih =>
    rw [migrateSpaces]
    refine (migrateSpace_transcript host jobId entry.1 entry.2 p).bind ?_ ?_
    · intro calls _ p' h
      exact (ih p').mono fun more r p'' hrest => .next h hrest
    · intro calls e p' h
      exact .stopped h

theorem MigrationJob.execute_transcript (job : MigrationJob) :
    RunM.Yields host (job.execute host) ⟨.empty, []⟩ fun calls r p =>
      ∃ opened, SpacesTranscript job.id job.effectiveAnswer.entries calls (job.opening opened) r
        p := by
  rw [MigrationJob.execute]
  refine RunM.Yields.seq .note ?_
  rintro calls _ p ⟨rfl, opened, rfl⟩
  exact (migrateSpaces_transcript host job.id _ _).mono fun calls r p h => ⟨opened, h⟩

theorem MigrationJob.conclude_transcript (outcome : Except MigrationError Unit) (p : Progress) :
    RunM.Yields host (MigrationJob.conclude host outcome) p fun calls _ p' =>
      calls = [] ∧ ∃ now, p' = { p with log := closeLog outcome now p.log } := by
  cases outcome with
  | ok _ =>
    rw [MigrationJob.conclude]
    refine RunM.Yields.mono .note ?_
    rintro calls r p' ⟨_, _, hc, now, hp⟩
    exact ⟨hc, now, hp⟩
  | error e =>
    rw [MigrationJob.conclude]
    refine RunM.Yields.mono .fail ?_
    rintro calls r p' ⟨_, _, hc, now, hp⟩
    exact ⟨hc, now, hp⟩

/-- What a run comes to whose steps are described by `Q`: it ends at its first look at the
cancellation, or its log is closed after the steps. -/
inductive RunEnds (job : MigrationJob)
    (Q : List Call → Except MigrationError Unit → Progress → Prop) : List Call → JobSnapshot → Prop
  | cancelled (startedAt now finishedAt : Timestamp) :
      RunEnds job Q [.check true]
        (job.frozen (job.answer.getD .empty) .finishedFailure []
          (JobLog.empty.fail now "Migration cancelled" (cancelledJob job.id)) startedAt finishedAt)
  | ended {calls outcome p} (startedAt now finishedAt : Timestamp) (h : Q calls outcome p) :
      RunEnds job Q (.check false :: calls)
        (job.frozen job.effectiveAnswer (MigrationJob.finalState outcome) p.results
          (closeLog outcome now p.log) startedAt finishedAt)

theorem MigrationJob.runWith_ends (job : MigrationJob) {steps : RunM m Unit}
    {Q : List Call → Except MigrationError Unit → Progress → Prop}
    (hsteps : RunM.Yields host steps ⟨.empty, []⟩ Q) :
    host.Yields (job.runWith host steps) (RunEnds job Q) := by
  rw [MigrationJob.runWith]
  refine Host.Yields.bind .clock ?_
  rintro calls startedAt rfl
  refine Host.Yields.bind (RunM.Yields.checkCancelled (p := ⟨.empty, []⟩)) ?_
  rintro calls ⟨cancelled, p⟩ ⟨rfl, ⟨rfl, rfl⟩ | ⟨rfl, rfl⟩⟩
  · refine Host.Yields.bind (x := steps.run.run _) hsteps ?_
    rintro calls ⟨outcome, p⟩ h
    refine Host.Yields.bind (MigrationJob.conclude_transcript host outcome p) ?_
    rintro calls' concluded ⟨rfl, now, hp⟩
    refine Host.Yields.bind .clock ?_
    rintro calls'' finishedAt rfl
    refine .pure ?_
    rw [hp]
    simp only [List.nil_append, List.append_nil, List.singleton_append]
    exact .ended startedAt now finishedAt h
  · refine Host.Yields.bind (x := pure _) (Q := fun calls r => calls = [] ∧ r = _)
      (.pure ⟨rfl, rfl⟩) ?_
    rintro calls executed ⟨rfl, rfl⟩
    refine Host.Yields.bind (MigrationJob.conclude_transcript host _ _) ?_
    rintro calls' concluded ⟨rfl, now, hp⟩
    refine Host.Yields.bind .clock ?_
    rintro calls'' finishedAt rfl
    refine .pure ?_
    rw [hp]
    exact .cancelled startedAt now finishedAt

/-- **Every run has a transcript.** Whatever the host, a run makes the calls of a transcript of its
job along a path of the host, and returns the snapshot of that transcript. -/
theorem MigrationJob.run_transcript (job : MigrationJob) :
    host.Yields (job.run host) (RunTranscript job) := by
  refine (job.runWith_ends host (job.execute_transcript host)).mono ?_
  rintro _ _ (⟨startedAt, now, finishedAt⟩ | @⟨calls, outcome, p, startedAt, now, finishedAt, h⟩)
  · exact .cancelled startedAt now finishedAt
  · obtain ⟨opened, h⟩ := h
    cases outcome with
    | ok _ => exact .finished startedAt opened now finishedAt h
    | error e => exact .aborted startedAt opened now finishedAt h

end Runs

/-! ### Observed runs -/

section Observed

variable {m : Type → Type} [Monad m] {σ : Type} [Stateful m σ]

theorem exec_traced {α : Type} (call : α → Call) (action : m α) (trace : List Call) (s : σ) :
    exec (traced call action) (trace, s) =
      ((exec action s).1, trace ++ [call (exec action s).1], (exec action s).2) := by
  rw [traced, exec_bind, exec_lift, exec_bind, exec_modify, exec_pure]

theorem of_exec_traced {α : Type} {call : α → Call} {action : m α} {trace trace' : List Call}
    {s t : σ} {result : α} (h : exec (traced call action) (trace, s) = (result, trace', t)) :
    trace' = trace ++ [call result] ∧ exec action s = (result, t) := by
  rw [exec_traced] at h
  obtain ⟨rfl, rfl, rfl⟩ := by simpa only [Prod.mk.injEq] using h
  exact ⟨rfl, rfl⟩

/-- An answer of an observed host is an answer of the host that lengthens the trace by the call. -/
theorem Host.Answers.of_observed {host : Host m} {trace trace' : List Call} {s t : σ} {call : Call}
    (h : host.observed.Answers (trace, s) call (trace', t)) :
    trace' = trace ++ [call] ∧ host.Answers s call t := by
  cases call <;> exact of_exec_traced h

theorem Host.Path.of_observed {host : Host m} {before after : List Call × σ} {calls : List Call}
    (h : host.observed.Path before calls after) :
    after.1 = before.1 ++ calls ∧ host.Path before.2 calls after.2 := by
  induction h with
  | refl s => exact ⟨(List.append_nil _).symm, .refl _⟩
  | call answer _ ih =>
    obtain ⟨htrace, answer⟩ := answer.of_observed
    obtain ⟨hrest, hpath⟩ := ih
    exact ⟨by rw [hrest, htrace, List.append_assoc, List.singleton_append], .call answer hpath⟩
  | @clock s u calls _ ih =>
    have hclock : exec host.observed.clock s =
        ((exec host.clock s.2).1, s.1, (exec host.clock s.2).2) :=
      exec_lift host.clock s.1 s.2
    rw [hclock] at ih
    exact ⟨ih.1, .clock ih.2⟩

/-- **The trace of an observed run is that of its transcript**, and a path of the host that was
observed. -/
theorem MigrationJob.observed_transcript (job : MigrationJob) (host : Host m) (s : σ) :
    RunTranscript job (exec ((job.run host.observed).run []) s).1.2
        (exec ((job.run host.observed).run []) s).1.1 ∧
      host.Path s (exec ((job.run host.observed).run []) s).1.2
        (exec ((job.run host.observed).run []) s).2 := by
  obtain ⟨calls, hpath, h⟩ := job.run_transcript host.observed ([], s)
  obtain ⟨htrace, hpath⟩ := hpath.of_observed
  rw [exec_stateT] at htrace hpath h
  rw [List.nil_append] at htrace
  subst htrace
  exact ⟨h, hpath⟩

end Observed

end SpaceMigration
