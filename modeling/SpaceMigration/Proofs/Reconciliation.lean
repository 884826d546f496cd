import Mathlib.Algebra.BigOperators.Group.List.Basic
import Mathlib.Algebra.GroupWithZero.Nat
import Mathlib.Data.List.Nodup
import SpaceMigration.Proofs.Answers
import SpaceMigration.Proofs.TurnPrograms

/-!
# The books of a run balance

A run keeps three books: the calls it makes, the events of its log, and the results of its spaces.
They are written in different places and on different branches, and they agree: a document is
migrated in all three or in none.

The spaces of a run take turns, so what belongs to one space is scattered over the books. The run is
cut into the turns of its spaces, and the turns of one space are put together again
(`SpacePart.own`): an event among them was logged while that space was processed. What one turn adds
leads from the counts of its space before it to those after it (`StepTranscript.goesOn_books`,
`StepTranscript.ends_books`), and so the books of a space balance, and those of the run. Only a run
that succeeds closes its books: the error that ends any other run belongs to no document and no
space.

## Main definitions

* `LogEvent.isDocumentFailure` — the events of documents that are not migrated
* `Stage.Lists` — how many documents a space has listed
* `SpaceTask.Settles` — what the turns of a space add that has come to its end
* `SpacePart.own`, `SpacePart.Balanced` — what the turns of a space add together, and what agrees
  there

## Main results

* `TaskRun.settles` — the turns of a space, by induction on them
* `TurnsTranscript.taskRun_own` — the turns of one space among those of all
* `MigrationJob.run_reconciles` — log, results and saves of every run
-/

namespace SpaceMigration

/-! ### What is counted -/

/-- The call saved a document. -/
def Call.isSaved : Call → Bool
  | .save _ (.ok ()) => true
  | _ => false

/-- The call failed to list a space. -/
def Call.isListFailure : Call → Bool
  | .list _ (.error _) => true
  | _ => false

namespace LogEvent

/-- The event is of the level on which migrated documents are logged. -/
def isDebug (e : LogEvent) : Bool :=
  e.level == .debug

/-- The event is an error. -/
def isError (e : LogEvent) : Bool :=
  e.level == .error

/-- The event says that a document was not migrated. -/
def isDocumentFailure (e : LogEvent) : Bool :=
  e.isError && "Failed to migrate document ".toList.isPrefixOf e.message.toList

/-- An event that only informs counts nowhere. -/
theorem uncounted_of_info {e : LogEvent} (h : e.level = .info) :
    e.isDebug = false ∧ e.isError = false ∧ e.isDocumentFailure = false := by
  have herror : e.isError = false := by
    rw [isError, h]
    rfl
  refine ⟨?_, herror, ?_⟩
  · rw [isDebug, h]
    rfl
  · rw [isDocumentFailure, herror, Bool.false_and]

theorem isDocumentFailure_documentFailed (now : Timestamp) (spaceKey documentId cause : String)
    (trace : Option (List String)) :
    isDocumentFailure ⟨.error, now, documentFailed spaceKey documentId ++ cause, trace⟩ = true := by
  have hmessage : documentFailed spaceKey documentId ++ cause =
      "Failed to migrate document " ++ (spaceKey ++ "." ++ documentId ++ cause) := by
    unfold documentFailed
    simp only [String.append_assoc, toString]
  rw [isDocumentFailure, hmessage, String.toList_append]
  exact List.isPrefixOf_iff_prefix.2 (List.prefix_append _ _)

theorem isDocumentFailure_spaceFailed (now : Timestamp) (space : SpaceSelection) (cause : String)
    (trace : Option (List String)) :
    isDocumentFailure ⟨.error, now, spaceFailed space ++ cause, trace⟩ = false := by
  have hmessage : spaceFailed space ++ cause = "Failed to read space " ++ (space.key ++ cause) := by
    unfold spaceFailed
    simp only [String.append_assoc, toString]
  rw [isDocumentFailure, hmessage, String.toList_append]
  rfl

end LogEvent

/-! ### Documents -/

/-- The converting of a document neither saves nor lists. -/
theorem BlocksTranscript.countP_eq_zero {blocks : List ContentBlock} {calls : List Call}
    {r : Except MigrationError (String × Tally)} (h : BlocksTranscript blocks calls r) :
    calls.countP Call.isSaved = 0 ∧ calls.countP Call.isListFailure = 0 := by
  induction h with
  | nil => exact ⟨rfl, rfl⟩
  | text content _ ih => exact ih
  | failed o e => exact ⟨rfl, rfl⟩
  | replaced o replacement _ ih => exact ih
  | kept o _ ih => exact ih

/-- A document saves once if it is migrated, and not otherwise. -/
theorem DocumentTranscript.countP_eq {spaceKey documentId : String} {target : EntityReference}
    {calls : List Call} {r : Except MigrationError Tally}
    (h : DocumentTranscript spaceKey target documentId calls r) :
    calls.countP Call.isSaved = (if failure? r = none then 1 else 0) ∧
      calls.countP Call.isListFailure = 0 := by
  cases h with
  | notLoaded e => exact ⟨rfl, rfl⟩
  | notConverted h => exact h.countP_eq_zero
  | @saved document calls content tally h result =>
    obtain ⟨hsaved, hlisted⟩ := h.countP_eq_zero
    have hload {p : Call → Bool} {more : List Call}
        (hp : p (.load spaceKey documentId (.ok document)) = false) :
        (Call.load spaceKey documentId (.ok document) :: (calls ++ more)).countP p =
          calls.countP p + more.countP p := by
      rw [List.countP_cons_of_neg (by simp [hp]), List.countP_append]
    rw [hload rfl, hload rfl, hsaved, hlisted]
    cases result <;> exact ⟨rfl, rfl⟩

/-! ### One turn -/

namespace Stage

/-- How many documents of the space are migrated so far. -/
def migrated : Stage → Nat
  | .toEnter | .toList => 0
  | .toCheck position | .toLoad position | .toSave position _ => position.migrated

/-- How many documents of the space have failed so far. -/
def failed : Stage → Nat
  | .toEnter | .toList => 0
  | .toCheck position | .toLoad position | .toSave position _ => position.failed

/-- A space at the stage that goes on with the calls has a number of documents in all: they are
listed by the calls, or they are those in front of the one that it is at, this one, and those behind
it. -/
def Lists (spaceKey : String) (documents : Nat) : Stage → List Call → Prop
  | .toEnter, calls => ∃ documentIds rest,
      calls = .check false :: .list spaceKey (.ok documentIds) :: rest ∧
        documents = documentIds.length
  | .toList, calls => ∃ documentIds rest,
      calls = .list spaceKey (.ok documentIds) :: rest ∧ documents = documentIds.length
  | .toCheck position, _ | .toLoad position, _ | .toSave position _, _ =>
      documents = position.migrated + position.failed + (position.rest.length + 1)

end Stage

/-- A document that is settled counts once. -/
theorem Position.sum_count (position : Position) (migrated : Bool) :
    (position.count migrated).1 + (position.count migrated).2 =
      position.migrated + position.failed + 1 := by
  rw [Position.count]
  split
  · exact Nat.add_right_comm _ _ _
  · exact (Nat.add_assoc _ _ _).symm

section

variable {jobId : String} {space : SpaceSelection} {target : EntityReference} {stage : Stage}
  {calls : List Call} {events : List LogEvent} {results : List SpaceResult}

/-- Going on to the next document counts nothing. -/
theorem NextTranscript.uncounted {migrated failed : Nat} {documentIds : List String}
    {next : Option Stage}
    (h : NextTranscript space target migrated failed documentIds events results next) :
    events.countP LogEvent.isDebug = 0 ∧ events.countP LogEvent.isError = 0 ∧
      events.countP LogEvent.isDocumentFailure = 0 := by
  cases h with
  | goesOn => exact ⟨rfl, rfl, rfl⟩
  | ends stamp =>
    obtain ⟨hdebug, herror, hfailure⟩ := LogEvent.uncounted_of_info
      (e := ⟨.info, stamp, spaceMigrated space target migrated failed, none⟩) rfl
    simp [hdebug, herror, hfailure]

/-- A document that is settled is one saved document and one event of its level, or one failure. -/
theorem countP_settled {spaceKey documentId : String} {outcome : Except MigrationError Tally}
    {loaded : Except MigrationError SourceDocument}
    (h : DocumentTranscript spaceKey target documentId (.load spaceKey documentId loaded :: calls)
      outcome) (stamp : Timestamp) :
    let event := settledEvent stamp spaceKey documentId outcome
    calls.countP Call.isListFailure = 0 ∧
      calls.countP Call.isSaved = (if outcome.toOption.isSome then 1 else 0) ∧
      [event].countP LogEvent.isDebug = (if outcome.toOption.isSome then 1 else 0) ∧
      [event].countP LogEvent.isError = (if outcome.toOption.isSome then 0 else 1) ∧
      [event].countP LogEvent.isDocumentFailure = (if outcome.toOption.isSome then 0 else 1) := by
  obtain ⟨hsaved, hlisted⟩ := h.countP_eq
  rw [List.countP_cons_of_neg (by simp [Call.isSaved])] at hsaved
  rw [List.countP_cons_of_neg (by simp [Call.isListFailure])] at hlisted
  refine ⟨hlisted, ?_⟩
  cases outcome with
  | ok tally => exact ⟨hsaved, rfl, rfl, rfl⟩
  | error e =>
    refine ⟨hsaved, rfl, rfl, ?_⟩
    rw [settledEvent, String.append_assoc, List.countP_singleton,
      LogEvent.isDocumentFailure_documentFailed]
    rfl

/-- **Every turn logs as many migrated documents as it saves.** -/
theorem StepTranscript.countP_isDebug {r : Except MigrationError (Option Stage)}
    (h : StepTranscript jobId space target stage calls events results r) :
    events.countP LogEvent.isDebug = calls.countP Call.isSaved := by
  cases h with
  | listed h => exact h.uncounted.1
  | saveAborted h he =>
    have hsaved := h.countP_eq.1
    rw [List.countP_cons_of_neg (by simp [Call.isSaved])] at hsaved
    exact hsaved.symm
  | settled stamp h hplain hnext =>
    obtain ⟨-, hsaved, hdebug, -⟩ := countP_settled h stamp
    rw [← List.singleton_append, List.countP_append, hdebug, hsaved, hnext.uncounted.1]
    rfl
  | _ => rfl

/-- A turn that ends the run has no result. -/
theorem StepTranscript.results_eq_nil {e : MigrationError}
    (h : StepTranscript jobId space target stage calls events results (.error e)) :
    results = [] := by
  cases h <;> rfl

/-- **A turn after which the space goes on** leads from the counts of the space before it to those
after it. -/
theorem StepTranscript.goesOn_books {later : Stage}
    (h : StepTranscript jobId space target stage calls events results (.ok (some later))) :
    results = [] ∧ calls.countP Call.isListFailure = 0 ∧
      events.countP LogEvent.isError = events.countP LogEvent.isDocumentFailure ∧
      later.migrated = stage.migrated + calls.countP Call.isSaved ∧
      later.failed = stage.failed + events.countP LogEvent.isDocumentFailure ∧
      ∀ documents more, later.Lists space.key documents more →
        stage.Lists space.key documents (calls ++ more) := by
  cases h with
  | entered =>
    refine ⟨rfl, rfl, rfl, rfl, rfl, ?_⟩
    rintro _ _ ⟨documentIds, rest, rfl, rfl⟩
    exact ⟨documentIds, rest, rfl, rfl⟩
  | listed h =>
    cases h with
    | goesOn documentId rest =>
      refine ⟨rfl, rfl, rfl, rfl, rfl, ?_⟩
      rintro _ more rfl
      exact ⟨documentId :: rest, more, rfl, by simp⟩
  | checked position => exact ⟨rfl, rfl, rfl, rfl, rfl, fun _ _ h => h⟩
  | loaded position loaded h => exact ⟨rfl, rfl, rfl, rfl, rfl, fun _ _ h => h⟩
  | @settled position loaded calls outcome _ _ _ stamp h hplain hnext =>
    obtain ⟨hlisted, hsaved, -, herror, hfailure⟩ := countP_settled h stamp
    obtain ⟨documentId, rest, migrated, failed⟩ := position
    cases hnext with
    | goesOn nextId rest =>
      rw [hsaved, herror, hfailure]
      refine ⟨rfl, hlisted, rfl, ?_, ?_, ?_⟩
      · cases outcome.toOption.isSome <;> rfl
      · cases outcome.toOption.isSome <;> rfl
      · rintro _ _ rfl
        simp only [Stage.Lists, Position.sum_count, List.length_cons]
        omega

/-- What the turns of a space add, from a stage on to its end: there is a result or a failed
listing, and they account for the saves, for the errors, and for the documents that were listed. -/
structure SpaceTask.Settles (task : SpaceTask) (calls : List Call) (events : List LogEvent)
    (results : List SpaceResult) : Prop where
  listed : results.length + calls.countP Call.isListFailure = 1
  saved : (results.map (·.documentsMigrated)).sum =
    task.stage.migrated + calls.countP Call.isSaved
  failed : (results.map (·.documentsFailed)).sum =
    task.stage.failed + events.countP LogEvent.isDocumentFailure
  errors : events.countP LogEvent.isError =
    events.countP LogEvent.isDocumentFailure + calls.countP Call.isListFailure
  result {result : SpaceResult} : result ∈ results →
    result.space = task.space ∧ result.target = task.target ∧
      task.stage.Lists task.space.key (result.documentsMigrated + result.documentsFailed) calls

/-- **A turn that ends its space** settles it. -/
theorem StepTranscript.ends_books
    (h : StepTranscript jobId space target stage calls events results (.ok none)) :
    (⟨space, target, stage⟩ : SpaceTask).Settles calls events results := by
  cases h with
  | @notListed e stamp he =>
    refine ⟨rfl, rfl, ?_, ?_, by simp⟩
    · rw [String.append_assoc, List.countP_singleton, LogEvent.isDocumentFailure_spaceFailed]
      rfl
    · rw [String.append_assoc, List.countP_singleton, List.countP_singleton,
        LogEvent.isDocumentFailure_spaceFailed]
      rfl
  | listed h =>
    obtain ⟨-, herror, hfailure⟩ := h.uncounted
    cases h with
    | ends stamp =>
      refine ⟨rfl, rfl, by rw [hfailure]; rfl, by rw [herror, hfailure]; rfl, ?_⟩
      intro result hresult
      cases List.mem_singleton.1 hresult
      exact ⟨rfl, rfl, [], [], rfl, rfl⟩
  | @settled position loaded calls outcome _ _ _ stamp h hplain hnext =>
    obtain ⟨hlisted, hsaved, -, herror, hfailure⟩ := countP_settled h stamp
    obtain ⟨-, hquietError, hquietFailure⟩ := hnext.uncounted
    obtain ⟨documentId, rest, migrated, failed⟩ := position
    cases hnext with
    | ends last =>
      have hevents (p : LogEvent → Bool) (event : LogEvent) (events : List LogEvent)
          (hp : events.countP p = 0) : (event :: events).countP p = [event].countP p := by
        rw [← List.singleton_append, List.countP_append, hp, Nat.add_zero]
      refine ⟨?_, ?_, ?_, ?_, ?_⟩
      · rw [hlisted]
        rfl
      · rw [hsaved]
        cases outcome.toOption.isSome <;> rfl
      · rw [hevents _ _ _ hquietFailure, hfailure]
        cases outcome.toOption.isSome <;> rfl
      · rw [hevents _ _ _ hquietError, hevents _ _ _ hquietFailure, herror, hfailure, hlisted,
          Nat.add_zero]
      · intro result hresult
        cases List.mem_singleton.1 hresult
        exact ⟨rfl, rfl, Position.sum_count ..⟩

end

/-! ### The turns of one space -/

section

variable {jobId : String} {parts : List SpacePart}

/-- **The turns of a space that has come to its end** settle it, and otherwise they have no
result. -/
theorem TaskRun.settles {task : SpaceTask} {r : Option (Except MigrationError Unit)}
    (h : TaskRun jobId (some task) parts r) :
    (r = some (.ok ()) → task.Settles (parts.flatMap (·.calls)) (parts.flatMap (·.events))
        (parts.flatMap (·.results))) ∧
      (r ≠ some (.ok ()) → parts.flatMap (·.results) = []) := by
  generalize hfrom : some task = from? at h
  induction h generalizing task with
  | ended => cases hfrom
  | waits task => exact ⟨by rintro ⟨⟩, fun _ => rfl⟩
  | @stopped task part e h =>
    refine ⟨by rintro ⟨⟩, fun _ => ?_⟩
    rw [List.flatMap_singleton]
    exact h.transcript.results_eq_nil
  | @next task part next parts r h hrest ih =>
    cases hfrom
    simp only [List.flatMap_cons]
    cases next with
    | none =>
      cases hrest
      refine ⟨fun _ => ?_, fun hr => absurd rfl hr⟩
      simp only [List.flatMap_nil, List.append_nil]
      exact h.transcript.ends_books
    | some later =>
      obtain ⟨hdone, hopen⟩ := ih rfl
      obtain ⟨hresults, hlisted, herrors, hmigrated, hfailed, hlists⟩ := h.transcript.goesOn_books
      rw [hresults, List.nil_append]
      refine ⟨fun hr => ?_, hopen⟩
      obtain ⟨hone, hsaved, hfailures, hmore, hresult⟩ := hdone hr
      simp only [SpaceTask.goOn] at hsaved hfailures hresult
      refine ⟨?_, ?_, ?_, ?_, ?_⟩
      · rw [List.countP_append, hlisted, Nat.zero_add, hone]
      · rw [List.countP_append, hsaved, hmigrated, Nat.add_assoc]
      · rw [List.countP_append, hfailures, hfailed, Nat.add_assoc]
      · rw [List.countP_append, List.countP_append, List.countP_append, herrors, hlisted, hmore,
          Nat.zero_add, Nat.add_assoc]
      · intro result hmem
        obtain ⟨hspace, htarget, hdocuments⟩ := hresult hmem
        exact ⟨hspace, htarget, hlists _ _ hdocuments⟩

end

/-! ### The turns of all spaces -/

/-- A sum over the tasks, with the task that goes on apart from the others. -/
theorem Turn.exists_sum_others {τ : Type} {room : Nat} {turns : List Nat} {tasks : List τ}
    {turn : Turn τ} (h : Turn.of? room turns tasks = some turn) (f : τ → Nat) :
    ∃ others, (tasks.map f).sum = f turn.task + others ∧
      ∀ next, ((turn.leave next).map f).sum = (next.toList.map f).sum + others := by
  refine ⟨((turn.front ++ turn.back ++ turn.outside).map f).sum, ?_, ?_⟩
  · exact ((Turn.perm_of_of? h).map f).sum_eq
  · intro next
    rw [((turn.perm_leave next).map f).sum_eq, List.map_append, List.sum_append]

/-- The number of tasks, with the task that goes on apart from the others. -/
theorem Turn.exists_length_others {τ : Type} {room : Nat} {turns : List Nat} {tasks : List τ}
    {turn : Turn τ} (h : Turn.of? room turns tasks = some turn) :
    ∃ others, tasks.length = 1 + others ∧
      ∀ next, (turn.leave next).length = next.toList.length + others := by
  refine ⟨(turn.front ++ turn.back ++ turn.outside).length, ?_, ?_⟩
  · rw [(Turn.perm_of_of? h).length_eq, List.length_cons, Nat.add_comm]
  · intro next
    rw [(turn.perm_leave next).length_eq, List.length_append]

section

variable {jobId : String} {room : Nat} {turns : List Nat} {tasks : List SpaceTask}
  {parts : List SpacePart} {r : Except MigrationError Unit}

theorem TurnsTranscript.countP_isDebug (h : TurnsTranscript jobId room turns tasks parts r) :
    ∀ part ∈ parts, part.events.countP LogEvent.isDebug = part.calls.countP Call.isSaved := by
  induction h with
  | done => simp
  | stopped _ h => exact List.forall_mem_singleton.2 h.transcript.countP_isDebug
  | next _ h _ ih => exact List.forall_mem_cons.2 ⟨h.transcript.countP_isDebug, ih⟩

/-- **The closed books of all spaces**, from where they stand on. -/
theorem TurnsTranscript.sums_of_success
    (h : TurnsTranscript jobId room turns tasks parts (.ok ())) :
    tasks.length = (parts.flatMap (·.results)).length +
        (parts.flatMap (·.calls)).countP Call.isListFailure ∧
      ((parts.flatMap (·.results)).map (·.documentsMigrated)).sum =
        (tasks.map (·.stage.migrated)).sum + (parts.flatMap (·.calls)).countP Call.isSaved ∧
      ((parts.flatMap (·.results)).map (·.documentsFailed)).sum =
        (tasks.map (·.stage.failed)).sum +
          (parts.flatMap (·.events)).countP LogEvent.isDocumentFailure ∧
      (parts.flatMap (·.events)).countP LogEvent.isError =
        (parts.flatMap (·.events)).countP LogEvent.isDocumentFailure +
          (parts.flatMap (·.calls)).countP Call.isListFailure := by
  generalize hend : (.ok () : Except MigrationError Unit) = r at h
  induction h with
  | done => exact ⟨rfl, rfl, rfl, rfl⟩
  | stopped => cases hend
  | @next turns tasks part next parts r turn hturn h _ ih =>
    obtain ⟨hlength, hsaved, hfailed, herrors⟩ := ih hend
    obtain ⟨others, hcount, hleft⟩ := Turn.exists_length_others hturn
    obtain ⟨migrated, hmigratedBefore, hmigratedAfter⟩ :=
      Turn.exists_sum_others hturn (·.stage.migrated)
    obtain ⟨failed, hfailedBefore, hfailedAfter⟩ := Turn.exists_sum_others hturn (·.stage.failed)
    rw [hleft] at hlength
    rw [hmigratedAfter] at hsaved
    rw [hfailedAfter] at hfailed
    rw [hcount, hmigratedBefore, hfailedBefore]
    simp only [List.flatMap_cons, List.length_append, List.countP_append, List.map_append,
      List.sum_append]
    cases next with
    | none =>
      obtain ⟨hone, hsavedNow, hfailedNow, herrorsNow, -⟩ := h.transcript.ends_books
      simp only [Option.map_none, Option.toList_none, List.map_nil, List.sum_nil, List.length_nil]
        at hlength hsaved hfailed
      dsimp only at hsavedNow hfailedNow
      omega
    | some later =>
      obtain ⟨hresults, hlisted, herrorsNow, hmigrated, hfailures, -⟩ := h.transcript.goesOn_books
      simp only [Option.map_some, Option.toList_some, List.map_cons, List.map_nil, List.sum_cons,
        List.sum_nil, List.length_cons, List.length_nil, SpaceTask.goOn] at hlength hsaved hfailed
      rw [hresults]
      simp only [List.length_nil, List.map_nil, List.sum_nil]
      omega

/-- The parts of a run belong to its spaces. -/
theorem TurnsTranscript.entry_mem (h : TurnsTranscript jobId room turns tasks parts r) :
    ∀ part ∈ parts, part.entry ∈ tasks.map SpaceTask.entry := by
  have hturn {turns : List Nat} {tasks : List SpaceTask} {part : SpacePart}
      {r : Except MigrationError (Option Stage)} {turn : Turn SpaceTask}
      (hturn : Turn.of? room turns tasks = some turn) (h : turn.task.Steps jobId part r) :
      part.entry ∈ tasks.map SpaceTask.entry := by
    rw [h.entry]
    exact List.mem_map_of_mem (Turn.task_mem hturn)
  induction h with
  | done => simp
  | stopped hof h =>
    rw [List.forall_mem_singleton]
    exact hturn hof h
  | @next turns tasks part next parts r turn hof h _ ih =>
    refine List.forall_mem_cons.2 ⟨hturn hof h, ?_⟩
    intro other hother
    obtain ⟨task, htask, hentry⟩ := List.mem_map.1 (ih other hother)
    rw [← hentry]
    obtain hnext | htask := turn.mem_leave.1 htask
    · obtain ⟨stage, -, rfl⟩ := Option.map_eq_some_iff.1 hnext
      change turn.task.entry ∈ _
      exact List.mem_map_of_mem (Turn.task_mem hof)
    · exact List.mem_map_of_mem (Turn.mem_of_mem_others hof htask)

/-- **Among the turns of all spaces, those of one space are its turns one after another.** -/
theorem TurnsTranscript.taskRun_own (h : TurnsTranscript jobId room turns tasks parts r)
    (hdistinct : (tasks.map SpaceTask.entry).Nodup) {task : SpaceTask} (htask : task ∈ tasks) :
    ∃ end?, TaskRun jobId (some task) (parts.filter (·.entry = task.entry)) end? ∧
      (r = .ok () → end? = some (.ok ())) := by
  induction h generalizing task with
  | done => simp at htask
  | @stopped turns tasks part e turn hturn h =>
    have hperm := Turn.perm_of_of? hturn
    obtain ⟨hfirst, -⟩ := List.nodup_cons.1 ((hperm.map SpaceTask.entry).nodup_iff.1 hdistinct)
    obtain rfl | hother := List.mem_cons.1 (hperm.mem_iff.1 htask)
    · rw [List.filter_cons_of_pos (by simp [h.entry]), List.filter_nil]
      exact ⟨_, .stopped h, by rintro ⟨⟩⟩
    · have hne : turn.task.entry ≠ task.entry := fun hsame =>
        hfirst (hsame ▸ List.mem_map_of_mem hother)
      rw [List.filter_cons_of_neg (by simp [h.entry, hne]), List.filter_nil]
      exact ⟨_, .waits task, by rintro ⟨⟩⟩
  | @next turns tasks part next parts r turn hturn h hrest ih =>
    have hperm := Turn.perm_of_of? hturn
    obtain ⟨hfirst, hothers⟩ :=
      List.nodup_cons.1 ((hperm.map SpaceTask.entry).nodup_iff.1 hdistinct)
    have hleave := (turn.perm_leave (next.map turn.task.goOn)).map SpaceTask.entry
    have hdistinct' : ((turn.leave (next.map turn.task.goOn)).map SpaceTask.entry).Nodup := by
      rw [hleave.nodup_iff, List.map_append]
      cases next with
      | none => exact hothers
      | some stage => exact List.nodup_cons.2 ⟨hfirst, hothers⟩
    obtain rfl | hother := List.mem_cons.1 (hperm.mem_iff.1 htask)
    · rw [List.filter_cons_of_pos (by simp [h.entry])]
      cases next with
      | some stage =>
        obtain ⟨end?, hrun, hend⟩ := ih hdistinct' (turn.mem_leave.2 (.inl rfl))
        exact ⟨end?, .next h hrun, hend⟩
      | none =>
        -- The space has ended, so no other part belongs to it.
        have hnone : parts.filter (·.entry = turn.task.entry) = [] := by
          rw [List.filter_eq_nil_iff]
          intro other hother
          have hmem := hleave.mem_iff.1 (hrest.entry_mem other hother)
          rw [decide_eq_true_eq]
          intro hsame
          exact hfirst (hsame ▸ hmem)
        rw [hnone]
        exact ⟨_, .next h .ended, fun _ => rfl⟩
    · have hne : turn.task.entry ≠ task.entry := fun hsame =>
        hfirst (hsame ▸ List.mem_map_of_mem hother)
      rw [List.filter_cons_of_neg (by simp [h.entry, hne])]
      exact ih hdistinct' (turn.mem_leave.2 (.inr hother))

end

/-! ### Whole runs -/

/-- The answer of a run has no entry twice. -/
theorem MigrationJob.AnswerFits.nodup_entries {job : MigrationJob} (h : job.AnswerFits) :
    job.effectiveAnswer.entries.Nodup :=
  .of_map (fun entry : SpaceSelection × EntityReference => entry.1.key)
    (h.keys_perm.nodup_iff.2 (nodup_eraseDups _))

/-- Spaces that enter are the entries of the answer. -/
theorem SpaceTask.map_entry_entering (entries : List (SpaceSelection × EntityReference)) :
    (entries.map SpaceTask.entering).map SpaceTask.entry = entries := by
  rw [List.map_map]
  exact List.map_id _

/-- The log of a run is closed with one event. -/
theorem exists_closeLog (outcome : Except MigrationError Unit) (now : Timestamp) (log : JobLog) :
    ∃ last, (closeLog outcome now log).events = log.events ++ [last] ∧ last.isDebug = false ∧
      (outcome = .ok () → last.level = .info) := by
  cases outcome with
  | ok _ => exact ⟨_, rfl, rfl, fun _ => rfl⟩
  | error e => exact ⟨_, rfl, rfl, by rintro ⟨⟩⟩

namespace SpacePart

/-- What the turns of an entry of the answer add together. -/
def own (parts : List SpacePart) (entry : SpaceSelection × EntityReference) : SpacePart :=
  let turns := parts.filter (·.entry = entry)
  { space := entry.1
    target := entry.2
    calls := turns.flatMap (·.calls)
    events := turns.flatMap (·.events)
    results := turns.flatMap (·.results) }

/-- The books of the part agree. Its result accounts for the listed documents one by one. -/
structure Balanced (part : SpacePart) : Prop where
  saved : part.events.countP LogEvent.isDebug = part.calls.countP Call.isSaved
  counted {result : SpaceResult} : result ∈ part.results →
    result.space = part.space ∧ result.target = part.target ∧
      ∃ documentIds rest,
        part.calls = .check false :: .list part.space.key (.ok documentIds) :: rest ∧
        result.documentsMigrated + result.documentsFailed = documentIds.length ∧
        result.documentsFailed = part.events.countP LogEvent.isDocumentFailure

end SpacePart

/-- Parts that log what they save do so together. -/
theorem countP_isDebug_flatMap {parts : List SpacePart}
    (h : ∀ part ∈ parts, part.events.countP LogEvent.isDebug = part.calls.countP Call.isSaved) :
    (parts.flatMap (·.events)).countP LogEvent.isDebug =
      (parts.flatMap (·.calls)).countP Call.isSaved := by
  rw [List.countP_flatMap, List.countP_flatMap]
  exact congrArg List.sum (List.map_congr_left h)

/-- **The books of one space agree**, whether or not it has come to its end. -/
theorem SpacePart.balanced_own {jobId : String} {parts : List SpacePart}
    {entry : SpaceSelection × EntityReference} {r : Option (Except MigrationError Unit)}
    (h : TaskRun jobId (some (.entering entry)) (parts.filter (·.entry = entry)) r)
    (hdebug : ∀ part ∈ parts,
      part.events.countP LogEvent.isDebug = part.calls.countP Call.isSaved) :
    (SpacePart.own parts entry).Balanced where
  saved := countP_isDebug_flatMap fun part hpart => hdebug part (List.mem_of_mem_filter hpart)
  counted {result} hresult := by
    obtain ⟨hdone, hopen⟩ := h.settles
    have hmem : result ∈ (parts.filter (·.entry = entry)).flatMap (·.results) := hresult
    by_cases hr : r = some (.ok ())
    · have hsettles := hdone hr
      obtain ⟨hspace, htarget, documentIds, rest, hcalls, hlength⟩ := hsettles.result hmem
      refine ⟨hspace, htarget, documentIds, rest, hcalls, hlength, ?_⟩
      -- There is one result only, so the sum over the results is its own number.
      have hone := hsettles.listed
      have hfailed := hsettles.failed
      cases hresults : (parts.filter (·.entry = entry)).flatMap (·.results) with
      | nil => simp [hresults] at hmem
      | cons first others =>
        rw [hresults] at hone hfailed hmem
        rw [List.length_cons] at hone
        obtain rfl : others = [] := List.length_eq_zero_iff.1 (by omega)
        cases List.mem_singleton.1 hmem
        simpa [Stage.failed, SpaceTask.entering, own] using hfailed
    · rw [hopen hr] at hmem
      simp at hmem

/-- What does not count the looks at the token counts the calls of the parts. -/
theorem countP_check_cons {q : Call → Bool} {found : Bool} (hq : q (.check found) = false)
    (calls : List Call) : (Call.check found :: calls).countP q = calls.countP q :=
  List.countP_cons_of_neg (by simp [hq])

/-- What does not count the events around the parts counts the events of the parts. -/
theorem countP_between {q : LogEvent → Bool} {opening events : List LogEvent} {last : LogEvent}
    (hopening : ∀ event ∈ opening, q event = false) (hlast : q last = false) :
    (opening ++ events ++ [last]).countP q = events.countP q := by
  have hzero : opening.countP q = 0 := by
    rw [List.countP_eq_zero]
    intro event hevent
    simp [hopening event hevent]
  rw [List.countP_append, List.countP_append, List.countP_singleton, hzero, hlast, Nat.zero_add]
  rfl

/-- A run looks at its token and goes through the turns of its spaces; its log has one event before
them unless it is cancelled, and one after them. -/
theorem TurnsRun.exists_parts {job : MigrationJob} {turns : List Nat} {calls : List Call}
    {snapshot : JobSnapshot} (h : TurnsRun job turns calls snapshot)
    (hdistinct : job.effectiveAnswer.entries.Nodup) :
    ∃ (found : Bool) (opening : List LogEvent) (last : LogEvent) (parts : List SpacePart),
      calls = .check found :: parts.flatMap (·.calls) ∧
      snapshot.log = opening ++ parts.flatMap (·.events) ++ [last] ∧
      snapshot.results = parts.flatMap (·.results) ∧
      (∀ part ∈ parts, part.entry ∈ snapshot.answer.entries) ∧
      (∀ entry ∈ snapshot.answer.entries, ∃ end?,
        TaskRun job.id (some (.entering entry)) (parts.filter (·.entry = entry)) end?) ∧
      (∀ event ∈ opening, event.level = .info) ∧ last.isDebug = false ∧
      (∀ part ∈ parts,
        part.events.countP LogEvent.isDebug = part.calls.countP Call.isSaved) ∧
      (snapshot.state = .finishedSuccess → last.level = .info ∧ ∃ turns,
        TurnsTranscript job.id job.maxParallelSpaces turns
          (snapshot.answer.entries.map .entering) parts (.ok ())) := by
  cases h with
  | cancelled startedAt now finishedAt =>
    exact ⟨true, [], _, [], rfl, rfl, rfl, by simp, fun entry _ => ⟨none, .waits _⟩, by simp, rfl,
      by simp, by rintro ⟨⟩⟩
  | @ended parts outcome startedAt opened now finishedAt h =>
    have hentries := SpaceTask.map_entry_entering job.effectiveAnswer.entries
    obtain ⟨last, hlast, hdebug, hlevel⟩ := exists_closeLog outcome now
      ⟨(job.opening opened).log.events ++ parts.flatMap (·.events)⟩
    refine ⟨false, (job.opening opened).log.events, last, parts, rfl, hlast, rfl, ?_, ?_, ?_,
      hdebug, h.countP_isDebug, ?_⟩
    · rw [← hentries] at hdistinct
      intro part hpart
      have hmem := h.entry_mem part hpart
      rwa [hentries] at hmem
    · intro entry hentry
      obtain ⟨end?, hrun, -⟩ := h.taskRun_own (by rwa [hentries]) (List.mem_map_of_mem hentry)
      exact ⟨end?, hrun⟩
    · simp [MigrationJob.opening, JobLog.note, JobLog.append, JobLog.empty]
    · intro hs
      cases outcome with
      | error e => cases hs
      | ok _ => exact ⟨hlevel rfl, turns, h⟩

/-- The books of a run that succeeds. -/
theorem TurnsRun.sums_of_success {job : MigrationJob} {turns : List Nat} {calls : List Call}
    {snapshot : JobSnapshot} (h : TurnsRun job turns calls snapshot)
    (hdistinct : job.effectiveAnswer.entries.Nodup) (hs : snapshot.state = .finishedSuccess) :
    snapshot.answer.entries.length =
        snapshot.results.length + calls.countP Call.isListFailure ∧
      (snapshot.results.map (·.documentsMigrated)).sum = calls.countP Call.isSaved ∧
      (snapshot.results.map (·.documentsFailed)).sum =
        snapshot.log.countP LogEvent.isDocumentFailure ∧
      snapshot.errorCount = (snapshot.results.map (·.documentsFailed)).sum +
        calls.countP Call.isListFailure := by
  obtain ⟨found, opening, last, parts, rfl, hlog, hresults, -, -, hopening, -, -, hdone⟩ :=
    h.exists_parts hdistinct
  obtain ⟨hlevel, turns, hturns⟩ := hdone hs
  obtain ⟨-, herror, hfailure⟩ := LogEvent.uncounted_of_info hlevel
  have hquietError : ∀ event ∈ opening, event.isError = false := by
    intro event hevent
    exact (LogEvent.uncounted_of_info (hopening event hevent)).2.1
  have hquietFailure : ∀ event ∈ opening, event.isDocumentFailure = false := by
    intro event hevent
    exact (LogEvent.uncounted_of_info (hopening event hevent)).2.2
  obtain ⟨hlength, hsaved, hfailed, herrors⟩ := hturns.sums_of_success
  -- No space has counted anything when it enters.
  have hzero (f : SpaceTask → Nat) (hf : ∀ entry, f (.entering entry) = 0) :
      ((snapshot.answer.entries.map SpaceTask.entering).map f).sum = 0 := by
    rw [List.map_map, List.sum_eq_zero]
    intro count hcount
    obtain ⟨entry, -, rfl⟩ := List.mem_map.1 hcount
    exact hf entry
  rw [List.length_map] at hlength
  rw [hzero _ fun _ => rfl, Nat.zero_add] at hsaved hfailed
  have herrorCount : snapshot.errorCount = snapshot.log.countP LogEvent.isError := rfl
  rw [herrorCount, hlog, countP_between hquietError herror, countP_between hquietFailure hfailure,
    hresults, countP_check_cons rfl, countP_check_cons rfl]
  refine ⟨hlength, hsaved, hfailed, ?_⟩
  rw [herrors, hfailed]

/-- **Log, results and saves of every run agree.** Whatever answers were offered to its job, however
its spaces take turns, and whatever its host and its faults:

* the log has as many debug events as documents were saved;
* the run is made of the turns of its spaces, and every result is that of the turns of its space
  together: it accounts for each document that was listed, and its failed documents are the failures
  that were logged in these turns;
* if the run succeeds, the results and the failed listings are those of all spaces of the answer,
  the migrated documents are those that were saved, the failed ones those whose failure was logged,
  and the errors of the log are the failed documents and the failed listings. -/
theorem MigrationJob.run_reconciles {σ : Type} (id : String) (request : MigrationRequest)
    (answers : List SpaceAnswer) (parallelism : Nat) (turns : List Nat) (host : Host (StateM σ))
    (faults : List Fault) (cancelled : Bool) (world : σ) :
    let job := ((MigrationJob.new id request).offered answers).withParallelism parallelism
    let (((snapshot, calls), _), _) :=
      (((job.runInTurns turns (host.disturbed faults).observed).run []).run cancelled).run world
    snapshot.log.countP LogEvent.isDebug = calls.countP Call.isSaved ∧
      (∃ (found : Bool) (opening : List LogEvent) (last : LogEvent) (parts : List SpacePart),
        calls = .check found :: parts.flatMap (·.calls) ∧
        snapshot.log = opening ++ parts.flatMap (·.events) ++ [last] ∧
        snapshot.results = parts.flatMap (·.results) ∧
        (∀ part ∈ parts, part.entry ∈ snapshot.answer.entries) ∧
        ∀ entry ∈ snapshot.answer.entries,
          (∃ end?, TaskRun job.id (some (.entering entry)) (parts.filter (·.entry = entry)) end?) ∧
            (SpacePart.own parts entry).Balanced) ∧
      (snapshot.state = .finishedSuccess →
        snapshot.answer.entries.length =
            snapshot.results.length + calls.countP Call.isListFailure ∧
          (snapshot.results.map (·.documentsMigrated)).sum = calls.countP Call.isSaved ∧
          (snapshot.results.map (·.documentsFailed)).sum =
            snapshot.log.countP LogEvent.isDocumentFailure ∧
          snapshot.errorCount = (snapshot.results.map (·.documentsFailed)).sum +
            calls.countP Call.isListFailure) := by
  intro job
  have h := job.disturbed_turnsRun turns host faults cancelled world
  generalize (((job.runInTurns turns (host.disturbed faults).observed).run []).run cancelled).run
    world = outcome at h ⊢
  obtain ⟨⟨⟨snapshot, calls⟩, token⟩, world'⟩ := outcome
  have hdistinct : job.effectiveAnswer.entries.Nodup :=
    ((answerFits_offered id request answers).withParallelism parallelism).nodup_entries
  obtain ⟨found, opening, last, parts, hcalls, hlog, hresults, hmem, hown, hopening, hlast, hdebug,
    -⟩ := h.exists_parts hdistinct
  refine ⟨?_, ⟨found, opening, last, parts, hcalls, hlog, hresults, hmem, fun entry hentry => ?_⟩,
    h.sums_of_success hdistinct⟩
  · have hquiet : ∀ event ∈ opening, event.isDebug = false := by
      intro event hevent
      exact (LogEvent.uncounted_of_info (hopening event hevent)).1
    rw [hlog, hcalls, countP_between hquiet hlast, countP_check_cons rfl,
      countP_isDebug_flatMap hdebug]
  · obtain ⟨end?, hrun⟩ := hown entry hentry
    exact ⟨⟨end?, hrun⟩, SpacePart.balanced_own hrun hdebug⟩

end SpaceMigration
