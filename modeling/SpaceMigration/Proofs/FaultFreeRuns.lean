import SpaceMigration.Proofs.ConverterFamilies
import SpaceMigration.Proofs.FairTurns
import SpaceMigration.Proofs.ProcessingOrder
import SpaceMigration.Proofs.Reconciliation

/-!
# Runs without faults

When nothing fails by itself and every macro converts, a run has one course: it comes to its end,
has a target for each answered space that the export has, and saves each document of these spaces.
One thing is left that it can log as an error: an answered space that the export does not have. It
is logged once, in the words of `spaceNotFound`, and the run goes on.

The errors come in the order in which the spaces are listed, and with fair turns this is the order
of the answer (`listOrder_fair`).

## Main definitions

* `errorMessages` — the messages of the error events of a log
* `spaceNotFound` — the message about a space that the export does not have
* `Export.migratedUnder` — the documents that a run saves under a root
* `JobSnapshot.Complete` — the end of a run of which nothing failed

## Main results

* `StepTranscript.errorMessages_eq`, `TurnsRun.errorMessages_eq` — the error events of a turn, and
  of a run, are those about missing spaces
* `TurnsRun.of_faultFree` — the course of a run without faults in fair turns
-/

namespace SpaceMigration

/-- The messages of the error events, in order. -/
def errorMessages (events : List LogEvent) : List String :=
  (events.filter LogEvent.isError).map (·.message)

/-- What is logged of a space that the export does not have. -/
def spaceNotFound (spaceKey : String) : String :=
  "Failed to read space " ++ spaceKey ++ ": Resource not found: space " ++ spaceKey

/-! ### One more event -/

theorem errorMessages_append (events more : List LogEvent) :
    errorMessages (events ++ more) = errorMessages events ++ errorMessages more := by
  rw [errorMessages, List.filter_append, List.map_append]
  rfl

theorem errorMessages_flatMap {α : Type} (xs : List α) (f : α → List LogEvent) :
    errorMessages (xs.flatMap f) = xs.flatMap fun x => errorMessages (f x) := by
  rw [errorMessages, List.filter_flatMap, List.map_flatMap]
  rfl

theorem JobLog.errorMessages_note (log : JobLog) (now : Timestamp) {level : LogLevel}
    (h : level ≠ .error) (message : String) :
    errorMessages (log.note now level message).events = errorMessages log.events := by
  have hquiet : LogEvent.isError ⟨level, log.stamp now, message, none⟩ = false := by
    rw [LogEvent.isError, beq_eq_false_iff_ne]
    exact h
  rw [note, append, errorMessages_append, errorMessages, errorMessages,
    List.filter_cons_of_neg (by simp [hquiet])]
  exact List.append_nil _

theorem spaceFailed_notFound (space : SpaceSelection) :
    spaceFailed space ++ ": " ++ MigrationError.message ⟨.notFound, "space " ++ space.key⟩ =
      spaceNotFound space.key := by
  have hwords : ": " ++ (ErrorKind.notFound.label ++ (": " ++ "space ")) =
      ": Resource not found: space " := by decide
  calc
    _ = "Failed to read space " ++ space.key ++
          (": " ++ (ErrorKind.notFound.label ++ (": " ++ "space "))) ++ space.key := by
      unfold spaceFailed MigrationError.message
      simp only [toString, String.append_assoc]
    _ = _ := by
      rw [hwords]
      rfl

/-- A space that cannot be listed is not in the export. -/
theorem Export.eq_of_list_eq_error {source : Export} {spaceKey : String} {e : MigrationError}
    (h : source.list spaceKey = .error e) :
    source.contains spaceKey = false ∧ e = ⟨.notFound, "space " ++ spaceKey⟩ := by
  obtain ⟨hmissing, he⟩ := list_eq_error_iff.1 h
  rw [mem_spaceKeys_iff, ← Option.isSome_iff_exists, Bool.not_eq_true] at hmissing
  exact ⟨hmissing, he⟩

/-! ### One turn -/

section

variable {source : Export} {registry : Registry}

/-- What is logged as an error when an entry of the answer is listed: something if the export does
not have the space. -/
def Export.missed? (source : Export) (entry : SpaceSelection × EntityReference) : Option String :=
  if source.contains entry.1.key then none else some (spaceNotFound entry.1.key)

/-- With a total registry, every document that a space lists loads and converts. -/
theorem SteadySource.migrates_ofExport (htotal : registry.Total) {spaceKey documentId : String}
    (h : documentId ∈ source.documentIds spaceKey) :
    (ofExport source registry).migrates spaceKey documentId = true := by
  obtain ⟨space, document, hspace, hmigrated, -⟩ := Export.exists_migrated htotal h ⟨""⟩
  rw [← isSome_saved? _ spaceKey ⟨""⟩, saved?_ofExport hspace, hmigrated]
  rfl

/-- Going on to the next document, or ending, is no error. -/
theorem NextTranscript.errorMessages_eq {space : SpaceSelection} {target : EntityReference}
    {migrated failed : Nat} {documentIds : List String} {events : List LogEvent}
    {results : List SpaceResult} {next : Option Stage}
    (h : NextTranscript space target migrated failed documentIds events results next) :
    errorMessages events = [] := by
  cases h <;> rfl

/-- **A turn leaves an error in the log if it lists a space that the export does not have**, and
none otherwise. -/
theorem StepTranscript.errorMessages_eq {jobId : String} {space : SpaceSelection}
    {target : EntityReference} {stage : Stage} {calls : List Call} {events : List LogEvent}
    {results : List SpaceResult} {next : Option Stage}
    (h : StepTranscript jobId space target stage calls events results (.ok next))
    (htotal : registry.Total) (hcalls : ∀ call ∈ calls, call.FaultFree source registry)
    (hfits : (SteadySource.ofExport source registry).Fits ⟨space, target, stage⟩) :
    let left := (SteadySource.ofExport source registry).turnsLeft ⟨space, target, stage⟩
    errorMessages events = (left.1.listed?.bind source.missed?).toList := by
  intro left
  cases h with
  | entered => rfl
  | @notListed e stamp he =>
    have hlist : .error e = source.list space.key := hcalls _ List.mem_cons_self
    obtain ⟨hmissing, rfl⟩ := Export.eq_of_list_eq_error hlist.symm
    have hmissed : left.1.listed?.bind source.missed? = some (spaceNotFound space.key) := by
      change source.missed? (space, target) = _
      rw [Export.missed?, hmissing]
      rfl
    rw [hmissed, ← spaceFailed_notFound]
    rfl
  | @listed documentIds events results next h =>
    have hlist : .ok documentIds = source.list space.key := hcalls _ List.mem_cons_self
    obtain ⟨found, hfound, -⟩ := Export.list_eq_ok_iff.1 hlist.symm
    have hmissed : left.1.listed?.bind source.missed? = none := by
      change source.missed? (space, target) = _
      rw [Export.missed?, StringMap.contains, hfound]
      rfl
    rw [hmissed, h.errorMessages_eq]
    rfl
  | checked position => rfl
  | loaded position loaded h => rfl
  | @settled position loaded calls outcome events results next stamp h hplain hnext =>
    obtain ⟨⟨done, hlist, -, -⟩, -, hload⟩ := hfits
    obtain ⟨-, hmigrates⟩ := h.of_steady
      (List.forall_mem_cons.2 ⟨hload, fun call hc => (hcalls call hc).answeredBy⟩)
    have hlisted : position.documentId ∈ source.documentIds space.key := by
      rw [← SteadySource.documentIds_ofExport source registry, SteadySource.documentIds,
        hlist]
      simp
    -- A listed document migrates, and what is logged about it then is no error.
    rw [SteadySource.migrates_ofExport htotal hlisted] at hmigrates
    cases outcome with
    | error e => cases hmigrates
    | ok tally => exact hnext.errorMessages_eq

end

/-! ### The whole course -/

/-- The target document that a run makes of a document of a space below its root, unless the export
does not have the space or a macro of the document fails. -/
def Export.migratedBelow? (source : Export) (registry : Registry) (root : EntityReference)
    (document : String × String) : Option TargetDocument :=
  (source.get? document.1).bind fun space =>
    space.migrated? registry (root.child document.1) document.1 document.2

/-- The documents of spaces in the order in which a run in fair turns comes to them, with room for
some of the spaces at once. -/
def Export.fairOrder (source : Export) (room : Nat) (keys : List String) : List (String × String) :=
  documentOrder room (source.fairTurns keys) (keys.map fun key => (key, source.documentIds key))

/-- The documents that a run in fair turns saves under the root for the spaces with the keys. -/
def Export.migratedUnder (source : Export) (registry : Registry) (root : EntityReference)
    (room : Nat) (keys : List String) : List TargetDocument :=
  (source.fairOrder room keys).filterMap (source.migratedBelow? registry root)

/-- The job has ended with success for the spaces with the keys. It has migrated those that the
export has, and logged an error for each of the others. -/
structure JobSnapshot.Complete (source : Export) (keys : List String) (job : JobSnapshot) :
    Prop where
  state : job.state = .finishedSuccess
  migratedSpaces : job.migratedSpaces =
    (keys.filter source.contains).map job.request.targetRoot.child
  errors : errorMessages job.log =
    (keys.filter fun key => !source.contains key).map spaceNotFound

section

variable {source : Export} {registry : Registry}

theorem Export.filterMap_missed? (source : Export)
    (entries : List (SpaceSelection × EntityReference)) :
    entries.filterMap source.missed? =
      ((entries.map (·.1.key)).filter fun key => !source.contains key).map spaceNotFound := by
  induction entries with
  | nil => rfl
  | cons entry rest ih =>
    cases hcontains : source.contains entry.1.key <;> simp [missed?, hcontains, ih]

/-- **The errors of a run without faults** are those about the answered spaces that the export does
not have, once each, in the order in which the spaces are listed. -/
theorem TurnsRun.errorMessages_eq {job : MigrationJob} {turns : List Nat} {calls : List Call}
    {snapshot : JobSnapshot} (h : TurnsRun job turns calls snapshot) (htotal : registry.Total)
    (hcalls : ∀ call ∈ calls, call.FaultFree source registry) :
    errorMessages snapshot.log = (listOrder job.maxParallelSpaces turns
      (job.spaces source.documentIds)).filterMap source.missed? := by
  have hgoes : ∀ call ∈ calls, ¬ call.Stops := fun call hc =>
    (hcalls call hc).not_stops htotal.not_isInfrastructure
  cases h with
  | cancelled => exact absurd (.inl rfl) (hgoes (.check true) (by simp))
  | @ended parts outcome startedAt opened now finishedAt h =>
    have hfaultFree := (List.forall_mem_cons.1 hcalls).2
    obtain ⟨rfl, hmade⟩ := h.turnOrder_of_steady (List.forall_mem_cons.1 hgoes).2
      fun call hc => (hfaultFree call hc).answeredBy
    have hopening : errorMessages (job.opening opened).log.events = [] :=
      JobLog.empty.errorMessages_note opened (by decide) _
    refine (JobLog.errorMessages_note _ now (by decide) _).trans ?_
    rw [errorMessages_append, hopening, List.nil_append, errorMessages_flatMap, listOrder,
      List.filterMap_filterMap, List.filterMap_eq_flatMap_toList,
      ← SteadySource.documentIds_ofExport source registry]
    refine flatMap_eq_of_forall₂ hmade ?_
    rintro turn part hpart ⟨task, next, hfits, rfl, hsteps, -, -⟩
    exact hsteps.transcript.errorMessages_eq htotal
      (fun call hc => hfaultFree call (List.mem_flatMap.2 ⟨part, hpart, hc⟩)) hfits

/-- With a total registry, each document that is listed is migrated to its place. -/
theorem Export.references_migratedUnder (htotal : registry.Total) (source : Export)
    (root : EntityReference) (room : Nat) (keys : List String) :
    (source.migratedUnder registry root room keys).map (·.reference) =
      (source.fairOrder room keys).map fun document =>
        (root.child document.1).child document.2 := by
  have hplaced : ∀ document ∈ source.fairOrder room keys,
      (source.migratedBelow? registry root document).map (·.reference) =
        some ((root.child document.1).child document.2) := by
    intro document hmem
    obtain ⟨space, hspace, hdocument⟩ := List.mem_flatMap.1 ((documentOrder_perm ..).mem_iff.1 hmem)
    obtain ⟨key, -, rfl⟩ := List.mem_map.1 hspace
    obtain ⟨documentId, hlisted, rfl⟩ := List.mem_map.1 hdocument
    obtain ⟨space, migrated, hspace, hmigrated, hreference⟩ :=
      exists_migrated htotal hlisted (root.child key)
    rw [migratedBelow?, hspace, Option.bind_some, hmigrated, Option.map_some, hreference]
  rw [migratedUnder, List.map_filterMap, List.filterMap_congr hplaced]
  exact congrFun List.filterMap_eq_map _

/-- Without an accepted answer, each space has its place under the root of the job. -/
theorem MigrationJob.target_of_mem {job : MigrationJob} (hanswer : job.answer = none)
    {entry : SpaceSelection × EntityReference} (h : entry ∈ job.effectiveAnswer.entries) :
    entry.2 = job.request.targetRoot.child entry.1.key := by
  rw [effectiveAnswer, hanswer] at h
  obtain ⟨space, -, rfl⟩ := List.mem_map.1 h
  rfl

/-- A job without an accepted answer saves the documents of its spaces under its root. -/
theorem Export.filterMap_fairTurns {job : MigrationJob} (hanswer : job.answer = none) :
    (documentOrder job.maxParallelSpaces (job.fairTurns source)
        (job.spaces source.documentIds)).filterMap (source.migratedFor? registry) =
      source.migratedUnder registry job.request.targetRoot job.maxParallelSpaces
        job.effectiveAnswer.keys := by
  have hspaces : job.effectiveAnswer.keys.map (fun key => (key, source.documentIds key)) =
      (job.spaces source.documentIds).map
        (Prod.map (fun entry : SpaceSelection × EntityReference => entry.1.key) id) := by
    rw [MigrationJob.spaces, SpaceAnswer.keys, List.map_map, List.map_map]
    rfl
  rw [migratedUnder, fairOrder, hspaces, documentOrder_map, List.filterMap_map]
  refine List.filterMap_congr fun document hmem => ?_
  obtain ⟨space, hspace, hdocument⟩ := List.mem_flatMap.1 ((documentOrder_perm ..).mem_iff.1 hmem)
  obtain ⟨entry, hentry, rfl⟩ := List.mem_map.1 hspace
  obtain ⟨documentId, -, rfl⟩ := List.mem_map.1 hdocument
  rw [migratedFor?, MigrationJob.target_of_mem hanswer hentry]
  rfl

/-- **A run without faults in fair turns is complete**, and saves the documents of its spaces under
its root. -/
theorem TurnsRun.of_faultFree {job : MigrationJob} {calls : List Call} {snapshot : JobSnapshot}
    (h : TurnsRun job (job.fairTurns source) calls snapshot) (hanswer : job.answer = none)
    (htotal : registry.Total) (hcalls : ∀ call ∈ calls, call.FaultFree source registry) :
    snapshot.Complete source job.question.keys ∧
      calls.filterMap Call.savedDocument? = source.migratedUnder registry job.request.targetRoot
        job.maxParallelSpaces job.question.keys := by
  have hkeys : job.effectiveAnswer.keys = job.question.keys := by
    rw [MigrationJob.effectiveAnswer, hanswer]
    exact SpaceQuestion.keys_defaultAnswer _ _
  have hgoes : ∀ call ∈ calls, ¬ call.Stops := fun call hc =>
    (hcalls call hc).not_stops htotal.not_isInfrastructure
  obtain ⟨hstate, hfrozen, -, hresults⟩ :=
    h.of_steady hgoes fun call hc => (hcalls call hc).answeredBy
  refine ⟨⟨hstate, ?_, ?_⟩, ?_⟩
  · have htargets (key : String) : ((SteadySource.ofExport source registry).list key).isSome =
        source.contains key := source.isSome_toOption_list key
    have hperm : snapshot.results.Perm (snapshot.answer.entries.filterMap
        (SteadySource.ofExport source registry).resultFor?) := by
      rw [hresults, hfrozen, ← job.map_fst_spaces (SteadySource.documentIds _)]
      exact (endOrder_perm ..).filterMap _
    rw [JobSnapshot.migratedSpaces_of_steady hperm, hfrozen, h.request_eq, ← hkeys,
      SpaceAnswer.keys, List.filter_map, List.map_map]
    simp only [htargets]
    refine List.map_congr_left fun entry hentry => ?_
    exact MigrationJob.target_of_mem hanswer (List.mem_of_mem_filter hentry)
  · have hlisted : listOrder job.maxParallelSpaces (job.fairTurns source)
        (job.spaces source.documentIds) = job.effectiveAnswer.entries := by
      have hturns : job.fairTurns source = (job.spaces source.documentIds).flatMap fun space =>
          List.replicate (2 + 3 * space.2.length) 0 := by
        simp only [MigrationJob.fairTurns, Export.fairTurns, MigrationJob.spaces, SpaceAnswer.keys,
          List.flatMap_map, source.getD_toOption_list]
      rw [hturns, listOrder_fair, job.map_fst_spaces]
    rw [h.errorMessages_eq htotal hcalls, hlisted, source.filterMap_missed?, ← hkeys]
    rfl
  · rw [h.saves htotal.not_isInfrastructure hcalls, Export.filterMap_fairTurns hanswer, hkeys]

end

end SpaceMigration
