import SpaceMigration.Job.Turns
import SpaceMigration.Proofs.Transcript
import SpaceMigration.Proofs.TurnOrder

/-!
# Transcripts of runs in turns

What a run does whose spaces take turns, as rules. There is one relation for a turn of a space
(`StepTranscript`), with a rule for each way through it, and two that put turns together: `TaskRun`
those of one space, and `TurnsTranscript` those of all spaces, in the order in which they are made.
A turn adds its calls, its events and its results to the run; it knows nothing of the other spaces,
and that is what statements about runs in turns rest on.

A space that never waits makes the same turns, one right after the other: the transcript of its
documents falls into turns (`DocumentsTranscript.exists_taskRun`).

## What is left open

The readings of the clock, as in `SpaceMigration.Proofs.Transcript`: an event has some timestamp.

## Main definitions

* `SpacePart` — what a turn of a space adds to its run
* `StepTranscript` — the rules of one turn
* `TaskRun`, `TurnsTranscript` — the turns of one space, and those of all
* `TurnsRun` — the whole run, with its snapshot

## Main results

* `DocumentsTranscript.exists_taskRun` — documents that are migrated without waiting
* `TaskRun.append` — the turns of one space before those of the others
-/

namespace SpaceMigration

/-! ### The rules of a turn -/

/-- What a turn of a space, or all of them together, adds to the calls, to the log and to the
results of a run. -/
structure SpacePart where
  space : SpaceSelection
  target : EntityReference
  calls : List Call
  events : List LogEvent
  results : List SpaceResult

/-- The entry of the answer. -/
def SpacePart.entry (part : SpacePart) : SpaceSelection × EntityReference :=
  (part.space, part.target)

/-- A space goes on to its next document, or ends with its result and an event about it. -/
inductive NextTranscript (space : SpaceSelection) (target : EntityReference)
    (migrated failed : Nat) :
    List String → List LogEvent → List SpaceResult → Option Stage → Prop
  | ends (stamp : Timestamp) :
      NextTranscript space target migrated failed []
        [⟨.info, stamp, spaceMigrated space target migrated failed, none⟩]
        [⟨space, target, migrated, failed⟩] none
  | goesOn (documentId : String) (rest : List String) :
      NextTranscript space target migrated failed (documentId :: rest) [] []
        (some (.toCheck ⟨documentId, rest, migrated, failed⟩))

/-- The event about a document that is settled. -/
def settledEvent (stamp : Timestamp) (spaceKey documentId : String) :
    Except MigrationError Tally → LogEvent
  | .ok tally => ⟨.debug, stamp, documentMigrated spaceKey documentId tally, none⟩
  | .error e => ⟨.error, stamp, documentFailed spaceKey documentId ++ ": " ++ e.message,
      some e.trace⟩

/-- One turn of a space. -/
inductive StepTranscript (jobId : String) (space : SpaceSelection) (target : EntityReference) :
    Stage → List Call → List LogEvent → List SpaceResult →
      Except MigrationError (Option Stage) → Prop
  | cancelled :
      StepTranscript jobId space target .toEnter [.check true] [] [] (.error (cancelledJob jobId))
  | entered : StepTranscript jobId space target .toEnter [.check false] [] [] (.ok (some .toList))
  | notListed {e : MigrationError} (stamp : Timestamp) (he : e.isInfrastructure = false) :
      StepTranscript jobId space target .toList [.list space.key (.error e)]
        [⟨.error, stamp, spaceFailed space ++ ": " ++ e.message, some e.trace⟩] [] (.ok none)
  | listAborted {e : MigrationError} (he : e.isInfrastructure = true) :
      StepTranscript jobId space target .toList [.list space.key (.error e)] [] [] (.error e)
  | listed {documentIds events results next}
      (h : NextTranscript space target 0 0 documentIds events results next) :
      StepTranscript jobId space target .toList [.list space.key (.ok documentIds)] events results
        (.ok next)
  | stopped (position : Position) :
      StepTranscript jobId space target (.toCheck position) [.check true] [] []
        (.error (cancelledJob jobId))
  | checked (position : Position) :
      StepTranscript jobId space target (.toCheck position) [.check false] [] []
        (.ok (some (.toLoad position)))
  | loadAborted (position : Position) {e : MigrationError} (he : e.isInfrastructure = true) :
      StepTranscript jobId space target (.toLoad position)
        [.load space.key position.documentId (.error e)] [] [] (.error e)
  | loaded (position : Position) (loaded : Except MigrationError SourceDocument)
      (h : ∀ e, loaded = .error e → e.isInfrastructure = false) :
      StepTranscript jobId space target (.toLoad position)
        [.load space.key position.documentId loaded] [] [] (.ok (some (.toSave position loaded)))
  | saveAborted {position : Position} {loaded calls e}
      (h : DocumentTranscript space.key target position.documentId
        (.load space.key position.documentId loaded :: calls) (.error e))
      (he : e.isInfrastructure = true) :
      StepTranscript jobId space target (.toSave position loaded) calls [] [] (.error e)
  | settled {position : Position} {loaded calls outcome events results next} (stamp : Timestamp)
      (h : DocumentTranscript space.key target position.documentId
        (.load space.key position.documentId loaded :: calls) outcome)
      (hplain : ∀ e, outcome = .error e → e.isInfrastructure = false)
      (hnext : NextTranscript space target (position.count outcome.toOption.isSome).1
        (position.count outcome.toOption.isSome).2 position.rest events results next) :
      StepTranscript jobId space target (.toSave position loaded) calls
        (settledEvent stamp space.key position.documentId outcome :: events) results (.ok next)

/-- The part is a turn of the space, with the given end. -/
structure SpaceTask.Steps (jobId : String) (task : SpaceTask) (part : SpacePart)
    (r : Except MigrationError (Option Stage)) : Prop where
  entry : part.entry = task.entry
  transcript : StepTranscript jobId task.space task.target task.stage part.calls part.events
    part.results r

/-! ### Turns together -/

/-- The turns of one space, from where it stands on. They end with the space, or with an error, or
the space waits for its next turn. -/
inductive TaskRun (jobId : String) :
    Option SpaceTask → List SpacePart → Option (Except MigrationError Unit) → Prop
  | ended : TaskRun jobId none [] (some (.ok ()))
  | waits (task : SpaceTask) : TaskRun jobId (some task) [] none
  | stopped {task part e} (h : task.Steps jobId part (.error e)) :
      TaskRun jobId (some task) [part] (some (.error e))
  | next {task part next parts r} (h : task.Steps jobId part (.ok next))
      (hrest : TaskRun jobId (next.map task.goOn) parts r) :
      TaskRun jobId (some task) (part :: parts) r

/-- The turns of spaces with room for some of them, up to the first that ends the run. -/
inductive TurnsTranscript (jobId : String) (room : Nat) :
    List Nat → List SpaceTask → List SpacePart → Except MigrationError Unit → Prop
  | done (turns : List Nat) : TurnsTranscript jobId room turns [] [] (.ok ())
  | stopped {turns tasks part e} {turn : Turn SpaceTask}
      (hturn : Turn.of? room turns tasks = some turn)
      (h : turn.task.Steps jobId part (.error e)) :
      TurnsTranscript jobId room turns tasks [part] (.error e)
  | next {turns tasks part next parts r} {turn : Turn SpaceTask}
      (hturn : Turn.of? room turns tasks = some turn) (h : turn.task.Steps jobId part (.ok next))
      (hrest : TurnsTranscript jobId room turns.tail (turn.leave (next.map turn.task.goOn)) parts
        r) :
      TurnsTranscript jobId room turns tasks (part :: parts) r

/-- A whole run in turns: it looks whether it is cancelled, migrates the spaces of the answer in
turns, and closes its log. -/
inductive TurnsRun (job : MigrationJob) (turns : List Nat) : List Call → JobSnapshot → Prop
  | cancelled (startedAt now finishedAt : Timestamp) :
      TurnsRun job turns [.check true]
        (job.frozen (job.answer.getD .empty) .finishedFailure []
          (JobLog.empty.fail now "Migration cancelled" (cancelledJob job.id)) startedAt finishedAt)
  | ended {parts outcome} (startedAt opened now finishedAt : Timestamp)
      (h : TurnsTranscript job.id job.maxParallelSpaces turns
        (job.effectiveAnswer.entries.map .entering) parts outcome) :
      TurnsRun job turns (.check false :: parts.flatMap (·.calls))
        (job.frozen job.effectiveAnswer (MigrationJob.finalState outcome)
          (parts.flatMap (·.results))
          (closeLog outcome now ⟨(job.opening opened).log.events ++ parts.flatMap (·.events)⟩)
          startedAt finishedAt)

theorem TurnsRun.request_eq {job : MigrationJob} {turns : List Nat} {calls : List Call}
    {snapshot : JobSnapshot} (h : TurnsRun job turns calls snapshot) :
    snapshot.request = job.request := by
  cases h <;> rfl

/-! ### Parts together -/

/-- What was produced before, and more events and results. -/
def Progress.extend (p : Progress) (events : List LogEvent) (results : List SpaceResult) :
    Progress :=
  ⟨⟨p.log.events ++ events⟩, p.results ++ results⟩

theorem Progress.extend_nil (p : Progress) : p.extend [] [] = p := by
  simp [extend]

theorem Progress.extend_extend (p : Progress) (events more : List LogEvent)
    (results others : List SpaceResult) :
    (p.extend events results).extend more others =
      p.extend (events ++ more) (results ++ others) := by
  simp [extend]

theorem Progress.extend_cons (p : Progress) (event : LogEvent) (events : List LogEvent)
    (results : List SpaceResult) :
    p.extend (event :: events) results = (p.extend [event] []).extend events results := by
  rw [extend_extend]
  rfl

theorem Progress.extend_events (p : Progress) (events : List LogEvent) :
    p.extend events [] = { p with log := ⟨p.log.events ++ events⟩ } := by
  simp [extend]

/-- The part of the space with the given calls, events and results. -/
def SpaceTask.part (task : SpaceTask) (calls : List Call) (events : List LogEvent)
    (results : List SpaceResult) : SpacePart :=
  ⟨task.space, task.target, calls, events, results⟩

/-- Together the parts make the calls, and add the events and the results. -/
structure Joins (parts : List SpacePart) (calls : List Call) (events : List LogEvent)
    (results : List SpaceResult) : Prop where
  calls : parts.flatMap (·.calls) = calls
  events : parts.flatMap (·.events) = events
  results : parts.flatMap (·.results) = results

theorem Joins.self (parts : List SpacePart) :
    Joins parts (parts.flatMap (·.calls)) (parts.flatMap (·.events)) (parts.flatMap (·.results)) :=
  ⟨rfl, rfl, rfl⟩

theorem Joins.cons {parts : List SpacePart} {calls : List Call} {events : List LogEvent}
    {results : List SpaceResult} (h : Joins parts calls events results) (part : SpacePart) :
    Joins (part :: parts) (part.calls ++ calls) (part.events ++ events)
      (part.results ++ results) := by
  obtain ⟨rfl, rfl, rfl⟩ := h
  exact ⟨List.flatMap_cons .., List.flatMap_cons .., List.flatMap_cons ..⟩

theorem Joins.append {parts more : List SpacePart} {calls late : List Call}
    {events later : List LogEvent} {results others : List SpaceResult}
    (h : Joins parts calls events results) (h' : Joins more late later others) :
    Joins (parts ++ more) (calls ++ late) (events ++ later) (results ++ others) := by
  obtain ⟨rfl, rfl, rfl⟩ := h
  obtain ⟨rfl, rfl, rfl⟩ := h'
  exact ⟨List.flatMap_append, List.flatMap_append, List.flatMap_append⟩

/-- A document is loaded first. If it does not load, that is the end of it. -/
theorem DocumentTranscript.loads_first {spaceKey documentId : String} {target : EntityReference}
    {calls : List Call} {outcome : Except MigrationError Tally}
    (h : DocumentTranscript spaceKey target documentId calls outcome) :
    ∃ loaded more, calls = .load spaceKey documentId loaded :: more ∧
      ∀ e, loaded = .error e → outcome = .error e ∧ more = [] := by
  cases h with
  | notLoaded e => exact ⟨_, _, rfl, by rintro _ ⟨⟩; exact ⟨rfl, rfl⟩⟩
  | notConverted h => exact ⟨_, _, rfl, by rintro _ ⟨⟩⟩
  | saved h result => exact ⟨_, _, rfl, by rintro _ ⟨⟩⟩

section

variable {jobId : String} (task : SpaceTask) (position : Position) {calls : List Call}

/-- The turns of a document that is settled, with what comes after it. -/
theorem TaskRun.settled {outcome : Except MigrationError Tally} {events : List LogEvent}
    {results : List SpaceResult} {next : Option Stage} {parts : List SpacePart}
    {r : Option (Except MigrationError Unit)}
    (h : DocumentTranscript task.space.key task.target position.documentId calls outcome)
    (hplain : ∀ e, outcome = .error e → e.isInfrastructure = false) (stamp : Timestamp)
    (hnext : NextTranscript task.space task.target (position.count outcome.toOption.isSome).1
      (position.count outcome.toOption.isSome).2 position.rest events results next)
    (hrest : TaskRun jobId (next.map task.goOn) parts r) :
    ∃ all, TaskRun jobId (some (task.goOn (.toCheck position))) all r ∧
      Joins all (.check false :: (calls ++ parts.flatMap (·.calls)))
        (settledEvent stamp task.space.key position.documentId outcome ::
          (events ++ parts.flatMap (·.events)))
        (results ++ parts.flatMap (·.results)) := by
  obtain ⟨loaded, more, rfl, hloaded⟩ := h.loads_first
  refine ⟨task.part [.check false] [] [] ::
    task.part [.load task.space.key position.documentId loaded] [] [] ::
    task.part more (settledEvent stamp task.space.key position.documentId outcome :: events)
      results :: parts,
    .next ⟨rfl, .checked position⟩ (.next ⟨rfl, .loaded position loaded ?_⟩
      (.next ⟨rfl, .settled stamp h hplain hnext⟩ hrest)),
    (((Joins.self parts).cons _).cons _).cons _⟩
  intro e he
  exact hplain e (hloaded e he).1

/-- The turns of a document that ends the run. -/
theorem TaskRun.aborted (jobId : String) {e : MigrationError}
    (h : DocumentTranscript task.space.key task.target position.documentId calls (.error e))
    (he : e.isInfrastructure = true) :
    ∃ all, TaskRun jobId (some (task.goOn (.toCheck position))) all (some (.error e)) ∧
      Joins all (.check false :: calls) [] [] := by
  obtain ⟨loaded, more, rfl, hloaded⟩ := h.loads_first
  cases loaded with
  | error e' =>
    obtain ⟨⟨⟩, rfl⟩ := hloaded e' rfl
    exact ⟨[task.part [.check false] [] [],
        task.part [.load task.space.key position.documentId (.error e)] [] []],
      .next ⟨rfl, .checked position⟩ (.stopped ⟨rfl, .loadAborted position he⟩), rfl, rfl, rfl⟩
  | ok document =>
    refine ⟨[task.part [.check false] [] [],
        task.part [.load task.space.key position.documentId (.ok document)] [] [],
        task.part more [] []],
      .next ⟨rfl, .checked position⟩ (.next ⟨rfl, .loaded position _ (by rintro _ ⟨⟩)⟩
        (.stopped ⟨rfl, .saveAborted h he⟩)), ?_, rfl, rfl⟩
    simp [SpaceTask.part]

/-- What is produced when the documents of a space are through: its result and an event about it,
if there is no error. -/
def SpaceTask.close (task : SpaceTask) (stamp : Timestamp) (migrated failed : Nat) :
    Except MigrationError (Nat × Nat) → Progress → Progress
  | .ok counts, p => p.extend
    [⟨.info, stamp, spaceMigrated task.space task.target (migrated + counts.1)
      (failed + counts.2), none⟩]
    [⟨task.space, task.target, migrated + counts.1, failed + counts.2⟩]
  | .error _, p => p

theorem SpaceTask.close_map (task : SpaceTask) (stamp : Timestamp) (migrated failed a b : Nat)
    (r : Except MigrationError (Nat × Nat)) :
    task.close stamp migrated failed (r.map fun counts => (counts.1 + a, counts.2 + b)) =
      task.close stamp (migrated + a) (failed + b) r := by
  cases r with
  | error e => rfl
  | ok counts =>
    funext p
    simp only [Except.map, close, Nat.add_assoc, Nat.add_comm a, Nat.add_comm b]

/-- **Documents that are migrated one after another are migrated in turns** of their space. -/
theorem DocumentsTranscript.exists_taskRun {documentIds : List String} {p p' : Progress}
    {r : Except MigrationError (Nat × Nat)}
    (h : DocumentsTranscript jobId task.space.key task.target documentIds calls p r p')
    (stamp : Timestamp) (migrated failed : Nat) :
    ∃ events results next parts,
      NextTranscript task.space task.target migrated failed documentIds events results next ∧
      TaskRun jobId (next.map task.goOn) parts (some (r.map fun _ => ())) ∧
      parts.flatMap (·.calls) = calls ∧
      task.close stamp migrated failed r p' = p.extend (events ++ parts.flatMap (·.events))
        (results ++ parts.flatMap (·.results)) := by
  induction h generalizing migrated failed with
  | nil p => exact ⟨_, _, _, [], .ends stamp, .ended, rfl, rfl⟩
  | cancelled documentId rest p =>
    exact ⟨_, _, _, [task.part [.check true] [] []], .goesOn documentId rest,
      .stopped ⟨rfl, .stopped _⟩, rfl, p.extend_nil.symm⟩
  | @aborted documentId rest calls e p h he =>
    obtain ⟨parts, hrun, hcalls, hevents, hresults⟩ :=
      TaskRun.aborted task ⟨documentId, rest, migrated, failed⟩ jobId h he
    refine ⟨_, _, _, parts, .goesOn documentId rest, hrun, hcalls, ?_⟩
    rw [hevents, hresults]
    exact p.extend_nil.symm
  | @migrated documentId rest calls more tally p r p' now h _ ih =>
    obtain ⟨events, results, next, parts, hnext, hrun, rfl, hclose⟩ := ih (migrated + 1) failed
    obtain ⟨all, hall, hcalls, hevents, hresults⟩ :=
      TaskRun.settled task ⟨documentId, rest, migrated, failed⟩ h (by rintro _ ⟨⟩)
        (p.log.stamp now) hnext hrun
    refine ⟨_, _, _, all, .goesOn documentId rest, ?_, hcalls, ?_⟩
    · cases r <;> exact hall
    · rw [hevents, hresults]
      refine (congrFun (task.close_map stamp migrated failed 1 0 r) p').trans (hclose.trans ?_)
      rw [List.nil_append, List.nil_append, p.extend_cons, p.extend_events]
      rfl
  | @failed documentId rest calls more e p r p' now h he _ ih =>
    obtain ⟨events, results, next, parts, hnext, hrun, rfl, hclose⟩ := ih migrated (failed + 1)
    obtain ⟨all, hall, hcalls, hevents, hresults⟩ :=
      TaskRun.settled task ⟨documentId, rest, migrated, failed⟩ h
        (by rintro _ ⟨⟩; exact he) (p.log.stamp now) hnext hrun
    refine ⟨_, _, _, all, .goesOn documentId rest, ?_, hcalls, ?_⟩
    · cases r <;> exact hall
    · rw [hevents, hresults]
      refine (congrFun (task.close_map stamp migrated failed 0 1 r) p').trans (hclose.trans ?_)
      rw [List.nil_append, List.nil_append, p.extend_cons, p.extend_events]
      rfl

end

/-! ### What is left of a space -/

/-- What is left of a space when a document is through: the events and the results that still belong
to the turn of that document, and the turns of the other documents. -/
def SpaceTask.Rest (jobId : String) (task : SpaceTask) (migrated failed : Nat)
    (documentIds : List String) (calls : List Call) (events : List LogEvent)
    (results : List SpaceResult) (r : Except MigrationError Unit) : Prop :=
  ∃ first others next parts,
    NextTranscript task.space task.target migrated failed documentIds first others next ∧
    TaskRun jobId (next.map task.goOn) parts (some r) ∧ parts.flatMap (·.calls) = calls ∧
    first ++ parts.flatMap (·.events) = events ∧ others ++ parts.flatMap (·.results) = results

/-- The turns of the space together make what is left of it. -/
def SpaceTask.Completes (jobId : String) (task : SpaceTask) (calls : List Call)
    (events : List LogEvent) (results : List SpaceResult) (r : Except MigrationError Unit) : Prop :=
  ∃ parts, TaskRun jobId (some task) parts (some r) ∧ Joins parts calls events results

section

variable {jobId : String} {task : SpaceTask}

/-- One more turn. -/
theorem SpaceTask.Completes.next {calls more : List Call} {events later : List LogEvent}
    {results others : List SpaceResult} {r : Except MigrationError Unit} {stage : Stage}
    (h : StepTranscript jobId task.space task.target task.stage calls events results
      (.ok (some stage)))
    (hrest : (task.goOn stage).Completes jobId more later others r) :
    task.Completes jobId (calls ++ more) (events ++ later) (results ++ others) r := by
  obtain ⟨parts, hrun, hjoins⟩ := hrest
  exact ⟨task.part calls events results :: parts, .next ⟨rfl, h⟩ hrun, hjoins.cons _⟩

/-- The turn that comes before the other documents of a space. -/
theorem SpaceTask.Completes.of_rest (task : SpaceTask) (events : List LogEvent)
    {calls more : List Call} {later : List LogEvent} {results : List SpaceResult}
    {r : Except MigrationError Unit} {migrated failed : Nat} {documentIds : List String}
    (h : ∀ first others next,
      NextTranscript task.space task.target migrated failed documentIds first others next →
        StepTranscript jobId task.space task.target task.stage calls (events ++ first) others
          (.ok next))
    (hrest : task.Rest jobId migrated failed documentIds more later results r) :
    task.Completes jobId (calls ++ more) (events ++ later) results r := by
  obtain ⟨first, others, next, parts, hnext, hrun, rfl, rfl, rfl⟩ := hrest
  refine ⟨task.part calls (events ++ first) others :: parts, .next ⟨rfl, h _ _ _ hnext⟩ hrun, ?_⟩
  rw [← List.append_assoc]
  exact (Joins.self parts).cons _

theorem SpaceTask.Completes.stopped {calls : List Call} {e : MigrationError}
    (h : StepTranscript jobId task.space task.target task.stage calls [] [] (.error e)) :
    task.Completes jobId calls [] [] (.error e) :=
  ⟨[task.part calls [] []], .stopped ⟨rfl, h⟩, List.flatMap_singleton .., rfl, rfl⟩

/-- The documents that are left, of which the first has not been looked at. -/
theorem SpaceTask.Completes.of_cons {position : Position} {calls : List Call}
    {events : List LogEvent} {results : List SpaceResult} {r : Except MigrationError Unit}
    (h : task.Rest jobId position.migrated position.failed (position.documentId :: position.rest)
      calls events results r) :
    (task.goOn (.toCheck position)).Completes jobId calls events results r := by
  obtain ⟨_, _, _, parts, ⟨⟩, hrun, rfl, rfl, rfl⟩ := h
  exact ⟨parts, hrun, .self parts⟩

end

/-! ### Spaces that do not wait -/

section

variable {jobId : String} {room : Nat}

/-- When the turns are used up, the turns of the first space come before those of the others. -/
theorem TaskRun.append {next : Option SpaceTask} {rest : List SpaceTask}
    {parts more : List SpacePart} {r : Except MigrationError Unit}
    (h : TaskRun jobId next parts (some (.ok ())))
    (hrest : TurnsTranscript jobId room [] rest more r) :
    TurnsTranscript jobId room [] (next.toList ++ rest) (parts ++ more) r := by
  generalize hend : (some (.ok ()) : Option (Except MigrationError Unit)) = finish at h
  induction h with
  | ended => exact hrest
  | waits | stopped => cases hend
  | next h _ ih => exact .next (Turn.of?_of_places_eq_one rfl _ _) h (ih hend)

theorem TaskRun.stops {next : Option SpaceTask} {parts : List SpacePart} {e : MigrationError}
    (h : TaskRun jobId next parts (some (.error e))) (rest : List SpaceTask) :
    TurnsTranscript jobId room [] (next.toList ++ rest) parts (.error e) := by
  generalize hend : (some (.error e) : Option (Except MigrationError Unit)) = finish at h
  induction h with
  | ended | waits => cases hend
  | stopped h =>
    cases hend
    exact .stopped (Turn.of?_of_places_eq_one rfl _ _) h
  | next h _ ih => exact .next (Turn.of?_of_places_eq_one rfl _ _) h (ih hend)

end

end SpaceMigration
