import SpaceMigration.Proofs.ByteOrder
import SpaceMigration.Proofs.CommandEffects
import SpaceMigration.Proofs.FaultFreeRuns

/-!
# The command `run`

A run with an access to write succeeds exactly if it is ready. Nothing that stands in the export can
make it fail after that: the converters of the extensions do not fail, a space that is missing is
logged, and the end of the job is written over the record that waited. A run that succeeds has done
what it was asked to do (`RunOptions.Fulfilled`).

## Main definitions

* `RunOptions.Fulfilled` — what a run that succeeds leaves in its store

## Main results

* `migrate_saves` — the documents that a run saves, or it saves nothing
* `migrate_succeeds_iff_ready` — readiness decides, and what a ready run leaves
-/

namespace SpaceMigration.CommandLine

open Stateful (exec)

/-- The root of the migrated spaces. -/
def RunOptions.root (options : RunOptions) (config : Config) : EntityReference :=
  ⟨options.targetRoot.getD config.migration.targetRoot⟩

/-- The documents that a run saves, in order. -/
def RunOptions.saved (options : RunOptions) (config : Config) (source : Export) :
    List TargetDocument :=
  source.migratedUnder config.registry (options.root config)
    (max config.migration.maxParallelSpaces 1) (options.selectedKeys source)

/-- The places of the documents that a space lists, in order. -/
def RunOptions.places (options : RunOptions) (config : Config) (source : Export) (key : String) :
    List EntityReference :=
  (source.documentIds key).map ((options.root config).child key).child

section

variable (options : RunOptions) (config : Config) (source : Export)

/-- The documents are saved in the order in which the run comes to them. -/
theorem RunOptions.references_saved :
    (options.saved config source).map (·.reference) =
      (source.fairOrder (max config.migration.maxParallelSpaces 1)
        (options.selectedKeys source)).map fun document =>
          ((options.root config).child document.1).child document.2 :=
  Export.references_migratedUnder (Registry.total_ofExtensions _ _) source _ _ _

theorem RunOptions.flatMap_places :
    (((options.selectedKeys source).map fun key => (key, source.documentIds key)).flatMap
        fun space => space.2.map fun documentId => (space.1, documentId)).map
          (fun document => ((options.root config).child document.1).child document.2) =
      (options.selectedKeys source).flatMap (options.places config source) := by
  rw [List.flatMap_map, List.map_flatMap]
  exact List.flatMap_congr fun key _ => List.map_map

/-- **Each document that a selected space lists is saved.** -/
theorem RunOptions.references_saved_perm :
    ((options.saved config source).map (·.reference)).Perm
      ((options.selectedKeys source).flatMap (options.places config source)) := by
  rw [references_saved, ← flatMap_places]
  exact (documentOrder_perm ..).map _

/-- The documents of one space are saved in the order in which it lists them. -/
theorem RunOptions.places_sublist {key : String} (h : key ∈ options.selectedKeys source) :
    (options.places config source key).Sublist
      ((options.saved config source).map (·.reference)) := by
  have hsub := (sublist_documentOrder (max config.migration.maxParallelSpaces 1)
    (source.fairTurns (options.selectedKeys source)) _
    (List.mem_map_of_mem (f := fun key => (key, source.documentIds key)) h)).map
      fun document => ((options.root config).child document.1).child document.2
  rw [List.map_map] at hsub
  rw [references_saved]
  exact hsub

/-- With room for one space, the documents of a space are saved before those of the next. -/
theorem RunOptions.references_saved_of_le_one (h : config.migration.maxParallelSpaces ≤ 1) :
    (options.saved config source).map (·.reference) =
      (options.selectedKeys source).flatMap (options.places config source) := by
  have hroom : max config.migration.maxParallelSpaces 1 ≤ 1 := by omega
  rw [references_saved, Export.fairOrder, documentOrder_of_room_le_one _ _ hroom, flatMap_places]

end

/-- What a run that succeeds leaves in its store. The selected spaces are taken in the order in
which they are first named, and in the order of the bytes of their keys when none is named. -/
structure RunOptions.Fulfilled (options : RunOptions) (config : Config) (source : Export)
    (store store' : Store) : Prop where
  ordered : options.spaces = [] →
    (options.selectedKeys source).Pairwise fun a b => Text.bytes a < Text.bytes b
  /-- Each document that a selected space lists is saved. -/
  listed : ((options.saved config source).map (·.reference)).Perm
    ((options.selectedKeys source).flatMap (options.places config source))
  /-- Those of one space are saved in order. -/
  inOrder : ∀ key ∈ options.selectedKeys source, (options.places config source key).Sublist
    ((options.saved config source).map (·.reference))
  /-- With room for one space, the spaces follow each other. -/
  oneByOne : config.migration.maxParallelSpaces ≤ 1 →
    (options.saved config source).map (·.reference) =
      (options.selectedKeys source).flatMap (options.places config source)
  documents : store'.SameDocuments (store.saveAll (options.saved config source))
  /-- The run is recorded as a success. It has migrated the selected spaces that the export has, and
  the errors in its log are about those that the export does not have. -/
  recorded : ∃ record log, store'.loadRecord ⟨options.auditDocument⟩ = .ok (some record) ∧
    record.executed = true ∧ record.outcome = some .success ∧
    record.migratedSpaces =
      ((options.selectedKeys source).filter source.contains).map (options.root config).child ∧
    (Json.Value.parse? record.logText).bind (·.asList LogEvent.ofJson?) = some log ∧
    errorMessages log =
      ((options.selectedKeys source).filter fun key => !source.contains key).map spaceNotFound

/-- The record of a complete job, written over a waiting one, fulfils the run. -/
theorem RunOptions.Fulfilled.of_complete {options : RunOptions} {config : Config} {source : Export}
    {spaces : List SpaceSelection} {finished : JobSnapshot}
    (hrequest : finished.request = options.request config spaces)
    (hcomplete : finished.Complete source (options.selectedKeys source)) {now : Timestamp}
    (hnow : now.HasPlainYear) (store : Store) (later : Timestamp) :
    options.Fulfilled config source store
      ((store.saveAll (options.saved config source)).written later (.ofSnapshot finished now)) where
  ordered hall := by
    rw [selectedKeys, if_pos hall]
    exact (Export.spaceKeys_ordered source).imp Text.bytes_lt_bytes
  listed := options.references_saved_perm config source
  inOrder _ hkey := options.places_sublist config source hkey
  oneByOne := options.references_saved_of_le_one config source
  documents := ⟨rfl, rfl⟩
  recorded := by
    have hdocument : finished.request.auditDocument = ⟨options.auditDocument⟩ :=
      congrArg MigrationRequest.auditDocument hrequest
    have htargets : finished.request.targetRoot = options.root config :=
      congrArg MigrationRequest.targetRoot hrequest
    have hload := (store.saveAll (options.saved config source)).loadRecord_written later
      (.ofSnapshot finished now) hnow
    have houtcome : JobOutcome.ofState finished.state = .success := by
      rw [hcomplete.state]
      rfl
    refine ⟨.ofSnapshot finished now, finished.log, ?_, rfl, congrArg some houtcome, ?_,
      finished.parse_logText, hcomplete.errors⟩
    · rw [← hdocument]
      exact hload
    · rw [← htargets]
      exact hcomplete.migratedSpaces

variable {m : Type → Type} [Monad m] [LawfulMonad m] {σ : Type} [Stateful m σ]
  {env : Environment m}

/-- **The job of a ready run saves all documents of the selected spaces**, and is recorded as
complete, unless writing is refused. -/
theorem exec_runJob_of_ready (hstill : env.Still) (access : Access) {config : Config}
    {options : RunOptions} {source : Export} {store : Store} {spaces : List SpaceSelection}
    (hready : options.Ready config source store)
    (hkeys : (SpaceQuestion.new spaces).keys = options.selectedKeys source) (jobId : String)
    (output : List String) (world : σ) :
    let r := exec (runJob env access source config.registry
      (options.job config spaces jobId)) (⟨store, output⟩, world)
    ∃ finished, finished.request = options.request config spaces ∧
      ((access = .readWrite ∧ finished.Complete source (options.selectedKeys source) ∧
        ∃ later, r = ((finished, []), ⟨(store.saveAll (options.saved config source)).written later
          (.ofSnapshot finished (exec env.clock world).1), output⟩, world)) ∨
      access = .readOnly ∧ ∃ e, r = ((finished, [e]), ⟨store, output⟩, world)) := by
  intro r
  obtain ⟨calls, finished, h, ⟨haccess, hcalls, later, hrun⟩ | hrefused⟩ :=
    exec_runJob hstill access source config.registry (options.job config spaces jobId)
      hready.waits output world
  · obtain ⟨hcomplete, hsaved⟩ :=
      h.of_faultFree rfl (Registry.total_ofExtensions config.enabledExtensions _) hcalls
    have hselected : (options.job config spaces jobId).question.keys =
        options.selectedKeys source := hkeys
    rw [hselected] at hcomplete hsaved
    rw [hsaved] at hrun
    exact ⟨finished, h.request_eq, .inl ⟨haccess, hcomplete, later, hrun⟩⟩
  · exact ⟨finished, h.request_eq, .inr hrefused⟩

/-- **A run saves the documents of the selected spaces, or nothing.** -/
theorem migrate_saves (hstill : env.Still) (access : Access) (config : Config)
    (options : RunOptions) (store : Store) (world : σ) :
    SessionM.EndsIn (migrate env access config options) world store fun _ store' =>
      store' = store ∨
        ∃ source, Export.ofFile (exec (env.read options.exportPath) world).1 = .ok source ∧
          options.Ready config source store ∧
          store'.SameDocuments (store.saveAll (options.saved config source)) := by
  refine migrate_endsIn hstill (fun _ _ => .inl rfl) ?_
  intro source spaces jobId hsource hready hkeys
  refine SessionM.EndsIn.bind (Q := fun _ store' => store' = store ∨
    store'.SameDocuments (store.saveAll (options.saved config source)))
    ((SessionM.EndsIn.attempt ?_).mono fun _ _ ⟨_, _, h⟩ => h) ?_ ?_
  · intro output
    obtain ⟨finished, -, ⟨-, -, later, hrun⟩ | ⟨-, e, hrun⟩⟩ :=
      exec_runJob_of_ready hstill access hready hkeys jobId output world
    · rw [hrun]
      exact ⟨.inr ⟨rfl, rfl⟩, rfl⟩
    · rw [hrun]
      exact ⟨.inl rfl, rfl⟩
  · rintro ⟨finished, failures⟩ store' hstore
    refine ((concludeRun_ends finished failures store').endsIn world).mono ?_
    rintro _ _ ⟨-, rfl⟩
    exact hstore.imp_right fun hsaved => ⟨source, hsource, hready, hsaved⟩
  · exact fun _ _ hstore => hstore.imp_right fun hsaved => ⟨source, hsource, hready, hsaved⟩

/-- **A run succeeds exactly if it is ready**, and then it does what it was asked to do. It needs
access to write, and a clock that shows a year that the stored format can hold. -/
theorem migrate_succeeds_iff_ready (hstill : env.Still) (world : σ)
    (hnow : (exec env.clock world).1.HasPlainYear) (config : Config) (options : RunOptions)
    (store : Store) :
    SessionM.EndsIn (migrate env .readWrite config options) world store fun r store' =>
      ((∃ source, Export.ofFile (exec (env.read options.exportPath) world).1 = .ok source ∧
          options.Ready config source store ∧ options.Fulfilled config source store store') ∧
        r = .ok ()) ∨
      (¬ ∃ source, Export.ofFile (exec (env.read options.exportPath) world).1 = .ok source ∧
          options.Ready config source store) ∧ ∃ e, r = .error e := by
  refine migrate_endsIn hstill (fun hunready e => .inr ⟨hunready, e, rfl⟩) ?_
  intro source spaces jobId hsource hready hkeys
  refine SessionM.EndsIn.bind (Q := fun r store' => ∃ a, r = .ok a ∧ a.2 = [] ∧
    a.1.succeeded = true ∧ a.1.request = options.request config spaces ∧
    options.Fulfilled config source store store') (.attempt ?_) ?_ (by rintro e _ ⟨_, ⟨⟩, -⟩)
  · intro output
    obtain ⟨finished, hrequest, ⟨-, hcomplete, later, hrun⟩ | ⟨⟨⟩, -⟩⟩ :=
      exec_runJob_of_ready hstill .readWrite hready hkeys jobId output world
    have hsucceeded : finished.succeeded = true := by
      rw [JobSnapshot.succeeded, hcomplete.state]
      rfl
    rw [hrun]
    exact ⟨⟨rfl, hsucceeded, hrequest, .of_complete hrequest hcomplete hnow store later⟩, rfl⟩
  · rintro _ store' ⟨⟨finished, failures⟩, ⟨⟩, rfl, hsucceeded, hrequest, hfulfilled⟩
    refine ((concludeRun_ends finished [] store').endsIn world).mono ?_
    rintro r _ ⟨hsuccess, rfl⟩
    refine .inl ⟨⟨source, hsource, hready, hfulfilled⟩, hsuccess.2 ⟨rfl, hsucceeded, ?_⟩⟩
    obtain ⟨record, -, hload, hexecuted, -⟩ := hfulfilled.recorded
    rw [hrequest]
    exact ⟨record, hload, hexecuted⟩

end SpaceMigration.CommandLine
