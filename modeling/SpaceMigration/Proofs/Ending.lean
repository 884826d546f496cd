import SpaceMigration.Proofs.Transcript

/-!
# How a run ends

A run ends early for two reasons only: it finds its job cancelled, or a call fails with an
infrastructure error. Such a call *stops* the run (`Call.Stops`), and it is the last one. Every
other error, cancellation reported by a call included, is logged and the run goes on to its end.

`StopsAt` is the form in which this is proved: which call stops a part of a run, if any, and with
which error. It is shown level by level, from the blocks of a document to the whole run.

## Main results

* `MigrationJob.run_succeeds_iff_never_stopped` — success, the end of the log and the last call
-/

namespace SpaceMigration

open Stateful (exec)

/-! ### The calls that stop a run -/

/-- The error of a result. -/
def failure? {α : Type} : Except MigrationError α → Option MigrationError
  | .ok _ => none
  | .error e => some e

@[simp] theorem failure?_ok {α : Type} (a : α) :
    failure? (.ok a : Except MigrationError α) = none := rfl

@[simp] theorem failure?_error {α : Type} (e : MigrationError) :
    failure? (.error e : Except MigrationError α) = some e := rfl

@[simp] theorem failure?_map {α β : Type} (f : α → β) (r : Except MigrationError α) :
    failure? (r.map f) = failure? r := by
  cases r <;> rfl

/-- The error of a result, if it is one that stops a run. -/
def stopping? {α : Type} : Except MigrationError α → Option MigrationError
  | .ok _ => none
  | .error e => if e.isInfrastructure then some e else none

@[simp] theorem stopping?_ok {α : Type} (a : α) :
    stopping? (.ok a : Except MigrationError α) = none := rfl

theorem stopping?_error {α : Type} (e : MigrationError) :
    stopping? (.error e : Except MigrationError α) = if e.isInfrastructure then some e else none :=
  rfl

@[simp] theorem stopping?_map {α β : Type} (f : α → β) (r : Except MigrationError α) :
    stopping? (r.map f) = stopping? r := by
  cases r <;> rfl

/-- The error that a call returned. -/
def Call.error? : Call → Option MigrationError
  | .check _ => none
  | .list _ result => failure? result
  | .load _ _ result => failure? result
  | .convert _ result => failure? result
  | .save _ result => failure? result

/-- The call stops the run that makes it: the job is found cancelled, or the call returns an
infrastructure error. -/
def Call.Stops (call : Call) : Prop :=
  call = .check true ∨ ∃ e, call.error? = some e ∧ e.isInfrastructure = true

/-- The call stops a run of the job, and this is the error with which the run ends. -/
def Call.StopsWith (jobId : String) (e : MigrationError) (call : Call) : Prop :=
  call = .check true ∧ e = cancelledJob jobId ∨
    call.error? = some e ∧ e.isInfrastructure = true

theorem Call.StopsWith.stops {jobId : String} {e : MigrationError} {call : Call}
    (h : call.StopsWith jobId e) : call.Stops :=
  h.imp And.left fun h => ⟨e, h⟩

/-- The calls of a part of a run, with the error that stopped it: none of them stops the run, or the
last one does and no other. -/
def StopsAt (jobId : String) : Option MigrationError → List Call → Prop
  | none, calls => ∀ call ∈ calls, ¬ call.Stops
  | some e, calls => ∃ before last, calls = before ++ [last] ∧
      (∀ call ∈ before, ¬ call.Stops) ∧ last.StopsWith jobId e

section

variable {jobId : String} {stop : Option MigrationError} {calls more : List Call}

theorem StopsAt.append (h : StopsAt jobId none calls) (h' : StopsAt jobId stop more) :
    StopsAt jobId stop (calls ++ more) := by
  cases stop with
  | none =>
    intro call hc
    rcases List.mem_append.1 hc with hc | hc
    · exact h call hc
    · exact h' call hc
  | some e =>
    obtain ⟨before, last, rfl, hbefore, hlast⟩ := h'
    refine ⟨calls ++ before, last, by rw [List.append_assoc], ?_, hlast⟩
    intro call hc
    rcases List.mem_append.1 hc with hc | hc
    · exact h call hc
    · exact hbefore call hc

theorem StopsAt.nil : StopsAt jobId none [] := by
  simp [StopsAt]

theorem StopsAt.cons {call : Call} (h : ¬ call.Stops) (h' : StopsAt jobId stop calls) :
    StopsAt jobId stop (call :: calls) :=
  @StopsAt.append _ _ [call] calls (by simpa [StopsAt] using h) h'

theorem StopsAt.check_false (h : StopsAt jobId stop calls) :
    StopsAt jobId stop (.check false :: calls) :=
  .cons (by simp [Call.Stops, Call.error?]) h

theorem StopsAt.check_true : StopsAt jobId (some (cancelledJob jobId)) [.check true] :=
  ⟨[], .check true, rfl, by simp, .inl ⟨rfl, rfl⟩⟩

/-- A single call stops the run exactly by its infrastructure error. -/
theorem StopsAt.single {α : Type} {r : Except MigrationError α} {call : Call}
    (h : call.error? = failure? r) (hcheck : call ≠ .check true) :
    StopsAt jobId (stopping? r) [call] := by
  cases r with
  | ok a => simpa [StopsAt, Call.Stops, h] using hcheck
  | error e =>
    rw [stopping?_error]
    split
    · next he => exact ⟨[], call, rfl, by simp, .inr ⟨h, he⟩⟩
    · next he => simpa [StopsAt, Call.Stops, h, hcheck] using he

/-- A call with a value does not stop the run. -/
theorem StopsAt.past {call : Call} (hcheck : call ≠ .check true) (h : call.error? = none)
    (h' : StopsAt jobId stop calls) : StopsAt jobId stop (call :: calls) :=
  .cons (by simp [Call.Stops, h, hcheck]) h'

end

/-! ### Level by level -/

theorem BlocksTranscript.stopsAt {jobId : String} {blocks : List ContentBlock} {calls : List Call}
    {r : Except MigrationError (String × Tally)} (h : BlocksTranscript blocks calls r) :
    StopsAt jobId (stopping? r) calls := by
  induction h with
  | nil => exact .nil
  | text content _ ih => rwa [stopping?_map]
  | failed o e => exact .single rfl (by simp)
  | replaced o replacement _ ih =>
    rw [stopping?_map]
    exact .past (by simp) rfl ih
  | kept o _ ih =>
    rw [stopping?_map]
    exact .past (by simp) rfl ih

theorem DocumentTranscript.stopsAt {jobId spaceKey documentId : String} {target : EntityReference}
    {calls : List Call} {r : Except MigrationError Tally}
    (h : DocumentTranscript spaceKey target documentId calls r) :
    StopsAt jobId (stopping? r) calls := by
  cases h with
  | notLoaded e => exact .single rfl (by simp)
  | notConverted h => exact .past (by simp) rfl h.stopsAt
  | saved h result =>
    rw [stopping?_map]
    exact .past (by simp) rfl (h.stopsAt.append (.single rfl (by simp)))

theorem DocumentsTranscript.stopsAt {jobId spaceKey : String} {target : EntityReference}
    {documentIds : List String} {calls : List Call} {p p' : Progress}
    {r : Except MigrationError (Nat × Nat)}
    (h : DocumentsTranscript jobId spaceKey target documentIds calls p r p') :
    StopsAt jobId (failure? r) calls := by
  induction h with
  | nil => exact .nil
  | cancelled => exact .check_true
  | aborted p h he =>
    have hstop : StopsAt jobId _ _ := h.stopsAt
    rw [stopping?_error, if_pos he] at hstop
    exact .check_false hstop
  | migrated now h _ ih =>
    rw [failure?_map]
    exact .check_false (h.stopsAt.append ih)
  | failed now h he _ ih =>
    have hstop : StopsAt jobId _ _ := h.stopsAt
    rw [stopping?_error, if_neg (by simp [he])] at hstop
    rw [failure?_map]
    exact .check_false (hstop.append ih)

theorem SpaceTranscript.stopsAt {jobId : String} {space : SpaceSelection}
    {target : EntityReference} {calls : List Call} {p p' : Progress}
    {r : Except MigrationError Unit} (h : SpaceTranscript jobId space target calls p r p') :
    StopsAt jobId (failure? r) calls := by
  have hlist (e : MigrationError) : StopsAt jobId
      (stopping? (.error e : Except MigrationError Unit)) [.list space.key (.error e)] :=
    .single rfl (by simp)
  cases h with
  | cancelled => exact .check_true
  | @aborted p e he =>
    have hstop := hlist e
    rw [stopping?_error, if_pos he] at hstop
    exact .check_false hstop
  | @notListed p now e he =>
    have hstop := hlist e
    rw [stopping?_error, if_neg (by simp [he])] at hstop
    exact .check_false hstop
  | interrupted h => exact .check_false (.past (by simp) rfl h.stopsAt)
  | finished now h => exact .check_false (.past (by simp) rfl h.stopsAt)

theorem SpacesTranscript.stopsAt {jobId : String}
    {entries : List (SpaceSelection × EntityReference)} {calls : List Call} {p p' : Progress}
    {r : Except MigrationError Unit} (h : SpacesTranscript jobId entries calls p r p') :
    StopsAt jobId (failure? r) calls := by
  induction h with
  | nil => exact .nil
  | stopped h => exact h.stopsAt
  | next h _ ih => exact h.stopsAt.append ih

/-! ### A run that is not stopped goes through everything

The spaces of the answer are listed in order, and so are the documents of each listing loaded. This
is what it means that no other error ends a run: it leaves no space and no document out. -/

/-- The space that a call lists. -/
def Call.listed? : Call → Option String
  | .list spaceKey _ => some spaceKey
  | _ => none

/-- The document that a call loads. -/
def Call.loaded? : Call → Option (String × String)
  | .load spaceKey documentId _ => some (spaceKey, documentId)
  | _ => none

/-- The documents that a call finds in a space. -/
def Call.found : Call → List (String × String)
  | .list spaceKey (.ok documentIds) => documentIds.map fun documentId => (spaceKey, documentId)
  | _ => []

/-- The calls list these spaces, find these documents and load these, each in this order. -/
structure Visits (calls : List Call) (spaces : List String)
    (found loaded : List (String × String)) : Prop where
  listed : calls.filterMap Call.listed? = spaces
  found : calls.flatMap Call.found = found
  loaded : calls.filterMap Call.loaded? = loaded

theorem Visits.nil : Visits [] [] [] [] :=
  ⟨rfl, rfl, rfl⟩

theorem Visits.append {calls more : List Call} {spaces spaces' : List String}
    {found found' loaded loaded' : List (String × String)} (h : Visits calls spaces found loaded)
    (h' : Visits more spaces' found' loaded') :
    Visits (calls ++ more) (spaces ++ spaces') (found ++ found') (loaded ++ loaded') where
  listed := by rw [List.filterMap_append, h.listed, h'.listed]
  found := by rw [List.flatMap_append, h.found, h'.found]
  loaded := by rw [List.filterMap_append, h.loaded, h'.loaded]

theorem Visits.single (call : Call) :
    Visits [call] call.listed?.toList call.found call.loaded?.toList where
  listed := by cases h : call.listed? <;> simp [h]
  found := by simp
  loaded := by cases h : call.loaded? <;> simp [h]

theorem BlocksTranscript.visits {blocks : List ContentBlock} {calls : List Call}
    {r : Except MigrationError (String × Tally)} (h : BlocksTranscript blocks calls r) :
    Visits calls [] [] [] := by
  induction h with
  | nil => exact .nil
  | text content _ ih => exact ih
  | failed o e => exact .single (.convert o (.error e))
  | replaced o replacement _ ih => exact (Visits.single (.convert o _)).append ih
  | kept o _ ih => exact (Visits.single (.convert o _)).append ih

theorem DocumentTranscript.visits {spaceKey documentId : String} {target : EntityReference}
    {calls : List Call} {r : Except MigrationError Tally}
    (h : DocumentTranscript spaceKey target documentId calls r) :
    Visits calls [] [] [(spaceKey, documentId)] := by
  have hload (result) := Visits.single (.load spaceKey documentId result)
  cases h with
  | notLoaded e => exact hload _
  | notConverted h => exact (hload _).append h.visits
  | saved h result => exact (hload _).append (h.visits.append (.single (.save _ result)))

theorem DocumentsTranscript.visits {jobId spaceKey : String} {target : EntityReference}
    {documentIds : List String} {calls : List Call} {p p' : Progress}
    {r : Except MigrationError (Nat × Nat)}
    (h : DocumentsTranscript jobId spaceKey target documentIds calls p r p')
    (hr : failure? r = none) :
    Visits calls [] [] (documentIds.map fun documentId => (spaceKey, documentId)) := by
  have hcheck := Visits.single (.check false)
  induction h with
  | nil => exact .nil
  | cancelled => simp at hr
  | aborted p h he => simp at hr
  | migrated now h _ ih => exact hcheck.append (h.visits.append (ih (by simpa using hr)))
  | failed now h he _ ih => exact hcheck.append (h.visits.append (ih (by simpa using hr)))

theorem SpaceTranscript.visits {jobId : String} {space : SpaceSelection}
    {target : EntityReference} {calls : List Call} {p p' : Progress}
    (h : SpaceTranscript jobId space target calls p (.ok ()) p') :
    ∃ documents, Visits calls [space.key] documents documents := by
  have hcheck := Visits.single (.check false)
  cases h with
  | @notListed p now e he =>
    exact ⟨[], hcheck.append (.single (.list space.key (.error e)))⟩
  | @finished documentIds calls p migrated failed p' now h =>
    refine ⟨documentIds.map fun documentId => (space.key, documentId), ?_⟩
    simpa [Call.listed?, Call.found, Call.loaded?] using
      hcheck.append ((Visits.single (.list space.key (.ok documentIds))).append (h.visits rfl))

theorem SpacesTranscript.visits {jobId : String}
    {entries : List (SpaceSelection × EntityReference)} {calls : List Call} {p p' : Progress}
    {r : Except MigrationError Unit} (h : SpacesTranscript jobId entries calls p r p')
    (hr : failure? r = none) :
    ∃ documents, Visits calls (entries.map fun entry => entry.1.key) documents documents := by
  induction h with
  | nil => exact ⟨[], .nil⟩
  | stopped h => simp at hr
  | next h _ ih =>
    obtain ⟨documents, h⟩ := h.visits
    obtain ⟨more, hrest⟩ := ih hr
    exact ⟨documents ++ more, h.append hrest⟩

/-! ### The whole run -/

theorem JobLog.getLast?_note (log : JobLog) (now : Timestamp) (level : LogLevel)
    (message : String) :
    (log.note now level message).events.getLast? = some ⟨level, log.stamp now, message, none⟩ :=
  List.getLast?_concat

theorem JobLog.getLast?_fail (log : JobLog) (now : Timestamp) (message : String)
    (cause : MigrationError) :
    (log.fail now message cause).events.getLast? =
      some ⟨.error, log.stamp now, message ++ ": " ++ cause.message, some cause.trace⟩ :=
  List.getLast?_concat

theorem abortMessage_cancelledJob (jobId : String) :
    abortMessage (cancelledJob jobId) = "Migration cancelled" :=
  if_pos rfl

theorem abortMessage_of_isInfrastructure {e : MigrationError} (h : e.isInfrastructure = true) :
    abortMessage e = "Migration aborted" := by
  have hkind : e.kind ≠ .cancelled := by
    intro hkind
    simp [MigrationError.isInfrastructure, hkind] at h
  rw [abortMessage, if_neg hkind]

/-- The last event of the log of a run that was stopped by the call. -/
def ClosedBy (job : MigrationJob) (last : Call) (event : LogEvent) : Prop :=
  event.level = .error ∧
    (last = .check true ∧
        event.message = "Migration cancelled" ++ ": " ++ (cancelledJob job.id).message ∨
      ∃ e, last.error? = some e ∧ e.isInfrastructure = true ∧
        event.message = "Migration aborted" ++ ": " ++ e.message)

theorem closedBy_of_stopsWith {job : MigrationJob} {last : Call} {e : MigrationError}
    {now : Timestamp} {trace : Option (List String)} (h : last.StopsWith job.id e) :
    ClosedBy job last ⟨.error, now, abortMessage e ++ ": " ++ e.message, trace⟩ := by
  refine ⟨rfl, ?_⟩
  obtain ⟨hlast, rfl⟩ | ⟨hlast, he⟩ := h
  · exact .inl ⟨hlast, by rw [abortMessage_cancelledJob]⟩
  · exact .inr ⟨e, hlast, he, by rw [abortMessage_of_isInfrastructure he]⟩

/-- What is true of a run that succeeds. -/
theorem RunTranscript.of_success {job : MigrationJob} {calls : List Call} {snapshot : JobSnapshot}
    (h : RunTranscript job calls snapshot) (hs : snapshot.state = .finishedSuccess) :
    (∀ call ∈ calls, ¬ call.Stops) ∧
      (∃ event, snapshot.log.getLast? = some event ∧ event.level = .info ∧
        event.message = "Migration finished") ∧
      ∃ documents, Visits calls snapshot.answer.keys documents documents := by
  cases h with
  | cancelled => cases hs
  | aborted => cases hs
  | finished startedAt opened now finishedAt h =>
    obtain ⟨documents, hvisits⟩ := h.visits rfl
    exact ⟨h.stopsAt.check_false, ⟨_, JobLog.getLast?_note _ _ _ _, rfl, rfl⟩, documents,
      (Visits.single (.check false)).append hvisits⟩

/-- What is true of a run that fails. -/
theorem RunTranscript.of_failure {job : MigrationJob} {calls : List Call} {snapshot : JobSnapshot}
    (h : RunTranscript job calls snapshot) (hs : snapshot.state ≠ .finishedSuccess) :
    snapshot.state = .finishedFailure ∧
      ∃ before last event, calls = before ++ [last] ∧ (∀ call ∈ before, ¬ call.Stops) ∧
        last.Stops ∧ snapshot.log.getLast? = some event ∧ ClosedBy job last event := by
  have hend (e : MigrationError) (log : JobLog) (now : Timestamp) (calls : List Call)
      (hstop : StopsAt job.id (some e) calls) :
      ∃ before last event, calls = before ++ [last] ∧ (∀ call ∈ before, ¬ call.Stops) ∧
        last.Stops ∧ (log.fail now (abortMessage e) e).events.getLast? = some event ∧
        ClosedBy job last event := by
    obtain ⟨before, last, rfl, hbefore, hlast⟩ := hstop
    exact ⟨before, last, _, rfl, hbefore, hlast.stops, JobLog.getLast?_fail _ _ _ _,
      closedBy_of_stopsWith hlast⟩
  cases h with
  | cancelled startedAt now finishedAt =>
    have hcancelled := hend (cancelledJob job.id) .empty now _ .check_true
    rw [abortMessage_cancelledJob] at hcancelled
    exact ⟨rfl, hcancelled⟩
  | aborted startedAt opened now finishedAt h =>
    exact ⟨rfl, hend _ _ now _ h.stopsAt.check_false⟩
  | finished => exact absurd rfl hs

/-- **A run succeeds if and only if no call stops it.** Over all surroundings: a run whose job is
never found cancelled and whose calls return no infrastructure error closes its log as finished,
having listed every space of its answer and loaded every document that it found. Any other run
fails; the call that stops it is the last one it makes, and the log ends with the reason. -/
theorem MigrationJob.run_succeeds_iff_never_stopped {σ : Type} (job : MigrationJob)
    (host : Host (StateM σ)) (world : σ) :
    let ((snapshot, calls), _) := ((job.run host.observed).run []).run world
    (snapshot.state = .finishedSuccess ↔ ∀ call ∈ calls, ¬ call.Stops) ∧
      (snapshot.state = .finishedSuccess →
        (∃ event, snapshot.log.getLast? = some event ∧ event.level = .info ∧
          event.message = "Migration finished") ∧
        calls.filterMap Call.listed? = snapshot.answer.keys ∧
        calls.filterMap Call.loaded? = calls.flatMap Call.found) ∧
      (snapshot.state ≠ .finishedSuccess →
        snapshot.state = .finishedFailure ∧
        ∃ before last event, calls = before ++ [last] ∧ (∀ call ∈ before, ¬ call.Stops) ∧
          snapshot.log.getLast? = some event ∧ ClosedBy job last event) := by
  have h : RunTranscript job _ _ := (job.observed_transcript host (world, ())).1
  change RunTranscript job (((job.run host.observed).run []).run world).1.2
    (((job.run host.observed).run []).run world).1.1 at h
  generalize ((job.run host.observed).run []).run world = outcome at h ⊢
  obtain ⟨⟨snapshot, calls⟩, world'⟩ := outcome
  change RunTranscript job calls snapshot at h
  refine ⟨?_, ?_, ?_⟩
  · constructor
    · intro hs
      exact (h.of_success hs).1
    · intro hcalls
      refine Decidable.byContradiction ?_
      intro hs
      obtain ⟨-, before, last, event, hsplit, -, hlast, -⟩ := h.of_failure hs
      exact hcalls last (by simp [hsplit]) hlast
  · intro hs
    obtain ⟨-, hevent, documents, hvisits⟩ := h.of_success hs
    exact ⟨hevent, hvisits.listed, hvisits.loaded.trans hvisits.found.symm⟩
  · intro hs
    obtain ⟨hstate, before, last, event, hsplit, hbefore, -, hevent, hclosed⟩ := h.of_failure hs
    exact ⟨hstate, before, last, event, hsplit, hbefore, hevent, hclosed⟩

end SpaceMigration
