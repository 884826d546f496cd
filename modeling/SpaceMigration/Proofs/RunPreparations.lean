import SpaceMigration.CommandLine.Commands
import SpaceMigration.Proofs.Answers
import SpaceMigration.Proofs.CommandSteps

/-!
# What a run needs

Before it starts a job, the command `run` reads its settings and its export, selects the spaces, and
looks at its audit document. Each of these can end it. A run is ready if none of them does: some
extension is enabled, every space is written with a key, some space is selected, and the audit
document waits. Then it goes on to its job, and otherwise it fails without having changed anything
(`migrate_endsIn`).

## Main definitions

* `Config.enabledExtensions`, `Config.registry` — the extensions that a configuration enables, and
  their converters
* `writtenKey`, `RunOptions.selectedKeys` — the keys of the spaces that a run is asked for
* `Store.Waits` — the audit document is there and waits for its run
* `RunOptions.Ready` — what a run needs

## Main results

* `selectSpaces_ends` — the selection has the selected keys
* `migrate_endsIn` — a run that is ready starts its job, and any other fails
-/

namespace SpaceMigration

/-- The record of the document is there and waits for its run. -/
def Store.Waits (store : Store) (document : EntityReference) : Prop :=
  ∃ record, store.loadRecord document = .ok (some record) ∧ record.executed = false

/-! ### Enabled extensions -/

/-- The identifiers in the list of extensions, which may be left out. -/
def Config.enabledExtensions (config : Config) : List String :=
  (config.migration.extensionIds.map splitExtensionIds).getD []

/-- The converters of the enabled extensions. -/
def Config.registry (config : Config) : Registry :=
  .ofExtensions config.enabledExtensions config.migration.tasklistMarker

/-- A list of extensions without an identifier is refused, and any other is accepted. -/
theorem Config.extensionIds_cases (config : Config) :
    (config.enabledExtensions = [] ∧ ∃ e, config.extensionIds = .error e) ∨
      config.enabledExtensions ≠ [] ∧ config.extensionIds = .ok config.enabledExtensions := by
  rw [enabledExtensions, extensionIds]
  cases config.migration.extensionIds with
  | none => exact .inl ⟨rfl, _, rfl⟩
  | some raw =>
    dsimp only [Option.map_some, Option.getD_some, parseExtensionIds]
    cases splitExtensionIds raw with
    | nil => exact .inl ⟨rfl, _, rfl⟩
    | cons id ids => exact .inr ⟨List.cons_ne_nil id ids, rfl⟩

/-! ### Selected spaces -/

theorem Text.fst_cutAt (separator : Char) (text : List Char) :
    ((cutAt separator text).getD (text, [])).1 = text.takeWhile (· ≠ separator) := by
  induction text with
  | nil => rfl
  | cons c rest ih =>
    rw [cutAt]
    by_cases h : c = separator
    · simp [h]
    · rw [if_neg h, List.takeWhile_cons_of_pos (by simpa using h), ← ih]
      cases cutAt separator rest <;> rfl

/-- The keys of the spaces of an export are in order. -/
theorem Export.spaceKeys_ordered (source : Export) :
    source.spaceKeys.Pairwise fun a b => a < b :=
  StringMap.keys_ordered source

theorem Export.nodup_spaceKeys (source : Export) : source.spaceKeys.Nodup :=
  StringMap.nodup_keys source

namespace CommandLine

open Stateful (exec exec_pure exec_bind)

/-- The key of a space that is written as `KEY` or `KEY:Name`: what stands before the first colon,
without the white space around it. -/
def writtenKey (raw : String) : String :=
  String.ofList (Text.trim (raw.toList.takeWhile (· ≠ ':')))

/-- The keys of the spaces that a run is asked for, each one where it is first named. When none is
named these are all keys of the export. -/
def RunOptions.selectedKeys (options : RunOptions) (source : Export) : List String :=
  if options.spaces = [] then source.spaceKeys else (options.spaces.map writtenKey).eraseDups

/-- A space is selected by the key with which it is written, unless that is blank. -/
theorem selection?_cases (source : Export) (raw : String) :
    (writtenKey raw = "" ∧ selection? source raw = none) ∨
      writtenKey raw ≠ "" ∧ ∃ name, selection? source raw = some ⟨writtenKey raw, name⟩ := by
  have hkey : writtenKey raw =
      String.ofList (Text.trim ((Text.cutAt ':' raw.toList).getD (raw.toList, [])).1) := by
    rw [writtenKey, Text.fst_cutAt]
  have hempty : (writtenKey raw).isEmpty = true ↔ writtenKey raw = "" := String.isEmpty_iff
  rw [selection?]
  dsimp only
  rw [← hkey]
  split
  · next h => exact .inl ⟨hempty.1 h, rfl⟩
  · next h => exact .inr ⟨fun hblank => h (hempty.2 hblank), _, rfl⟩

variable {m : Type → Type} [Monad m] {σ : Type} [Stateful m σ]

/-- Written spaces are selected by their keys, unless one of these is blank. -/
theorem mapM_selection_ends [LawfulMonad m] (source : Export)
    {select : String → SessionM m SpaceSelection}
    (hselect : ∀ raw selection, selection? source raw = some selection →
      select raw = pure selection)
    (hblank : ∀ raw, selection? source raw = none → ∃ reason, select raw = SessionM.fail reason)
    (written : List String) (store : Store) :
    SessionM.Ends (written.mapM select) store fun r store' =>
      ((∃ spaces, r = .ok spaces ∧ spaces.map (·.key) = written.map writtenKey ∧
          ∀ raw ∈ written, writtenKey raw ≠ "") ∨
        (∃ e, r = .error e) ∧ ∃ raw ∈ written, writtenKey raw = "") ∧ store' = store := by
  induction written with
  | nil => exact .pure ⟨.inl ⟨[], rfl, rfl, by simp⟩, rfl⟩
  | cons raw rest ih =>
    rw [List.mapM_cons]
    obtain ⟨hkey, hnone⟩ | ⟨hkey, name, hsome⟩ := selection?_cases source raw
    · obtain ⟨reason, hfail⟩ := hblank raw hnone
      rw [hfail]
      exact .fail_bind ⟨.inr ⟨⟨_, rfl⟩, raw, List.mem_cons_self, hkey⟩, rfl⟩
    · rw [hselect raw _ hsome, pure_bind]
      refine ih.after ?_ ?_
      · rintro spaces (⟨_, ⟨⟩, hkeys, hrest⟩ | ⟨⟨_, he⟩, -⟩)
        · refine .pure ⟨.inl ⟨_, rfl, ?_, List.forall_mem_cons.2 ⟨hkey, hrest⟩⟩, rfl⟩
          rw [List.map_cons, List.map_cons, hkeys]
        · cases he
      · rintro e (⟨_, he, -⟩ | ⟨-, other, hother, hblank⟩)
        · cases he
        · exact ⟨.inr ⟨⟨e, rfl⟩, other, List.mem_cons_of_mem _ hother, hblank⟩, rfl⟩

/-- **The selection has the selected keys**, unless a space is written with a blank one. -/
theorem selectSpaces_ends [LawfulMonad m] (source : Export) (options : RunOptions)
    (store : Store) :
    SessionM.Ends (selectSpaces source options.spaces : SessionM m _) store
      fun r store' =>
        ((∃ spaces, r = .ok spaces ∧ (∀ raw ∈ options.spaces, writtenKey raw ≠ "") ∧
            (SpaceQuestion.new spaces).keys = options.selectedKeys source) ∨
          (∃ e, r = .error e) ∧ ∃ raw ∈ options.spaces, writtenKey raw = "") ∧
        store' = store := by
  rw [selectSpaces, RunOptions.selectedKeys]
  cases options.spaces with
  | nil =>
    have hkeys : (everySpace source).map (·.key) = source.spaceKeys := by
      rw [everySpace, List.map_map]
      exact List.map_id' _
    rw [List.isEmpty_nil, if_pos rfl, if_pos rfl]
    refine .pure ⟨.inl ⟨_, rfl, by simp, ?_⟩, rfl⟩
    rw [SpaceQuestion.keys_new, hkeys, eraseDups_of_nodup (Export.nodup_spaceKeys source)]
  | cons raw rest =>
    rw [List.isEmpty_cons, if_neg Bool.false_ne_true]
    refine (mapM_selection_ends source ?_ ?_ (raw :: rest) store).mono ?_
    · intro raw selection hsome
      rw [hsome]
    · intro raw hnone
      rw [hnone]
      exact ⟨_, rfl⟩
    rintro r store' ⟨⟨spaces, hr, hkeys, hwritten⟩ | hblank, hstore⟩
    · refine ⟨.inl ⟨spaces, hr, hwritten, ?_⟩, hstore⟩
      rw [if_neg (List.cons_ne_nil raw rest), SpaceQuestion.keys_new, hkeys]
    · exact ⟨.inr hblank, hstore⟩

theorem keys_new_eq_nil_iff (spaces : List SpaceSelection) :
    (SpaceQuestion.new spaces).keys = [] ↔ spaces = [] := by
  rw [SpaceQuestion.keys_new]
  cases spaces with
  | nil => simp
  | cons space rest => simp [List.eraseDups_cons]

/-! ### The audit document -/

/-- The job is run for a document that waits, and for no other. -/
theorem requireWaiting_ends (document : EntityReference) (store : Store) :
    SessionM.Ends (requireWaiting document : SessionM m Unit) store fun r store' =>
      (store.Waits document ∧ r = .ok () ∨ ¬ store.Waits document ∧ ∃ e, r = .error e) ∧
        store' = store := by
  have hidle {found : Except MigrationError (Option AuditRecord)}
      (hload : store.loadRecord document = found)
      (h : ∀ record, found = .ok (some record) → record.executed = true) :
      ¬ store.Waits document := by
    rintro ⟨record, hrecord, hexecuted⟩
    rw [h record (hload.symm.trans hrecord)] at hexecuted
    cases hexecuted
  rw [requireWaiting]
  have hloaded := SessionM.Ends.loadRecord (m := m) document store
  cases hload : store.loadRecord document with
  | error e =>
    rw [hload] at hloaded
    refine hloaded.bind (by rintro _ _ ⟨hr, -⟩; cases hr) ?_
    rintro e _ ⟨-, rfl⟩
    exact ⟨.inr ⟨hidle hload (by rintro _ ⟨⟩), e, rfl⟩, rfl⟩
  | ok found =>
    rw [hload] at hloaded
    refine hloaded.bind ?_ (by rintro _ _ ⟨hr, -⟩; cases hr)
    rintro _ _ ⟨⟨⟩, rfl⟩
    cases found with
    | none => exact .throw ⟨.inr ⟨hidle hload (by rintro _ ⟨⟩), _, rfl⟩, rfl⟩
    | some record =>
      cases hexecuted : record.executed with
      | true =>
        simp only [hexecuted, ↓reduceIte]
        refine .throw ⟨.inr ⟨hidle hload ?_, _, rfl⟩, rfl⟩
        rintro _ ⟨⟩
        exact hexecuted
      | false =>
        simp only [hexecuted, Bool.false_eq_true, ↓reduceIte]
        exact .pure ⟨.inl ⟨⟨record, hload, hexecuted⟩, rfl⟩, rfl⟩

/-! ### All preparations -/

/-- Looking at paths, reading the clock and making identifiers leave the world alone. -/
structure Environment.Still (env : Environment m) : Prop where
  look (path : String) (world : σ) : (exec (env.look path) world).2 = world
  clock (world : σ) : (exec env.clock world).2 = world
  newJobId (world : σ) : (exec env.newJobId world).2 = world

theorem Environment.Still.read [LawfulMonad m] {env : Environment m} (h : env.Still)
    (path : String) (world : σ) : (exec (env.read path) world).2 = world := by
  rw [Environment.read, map_eq_pure_bind, exec_bind, exec_pure]
  exact h.look path world

/-- What a run needs, besides an export that can be read: an extension, a key for each written
space, a space to migrate, and an audit document that waits. -/
structure RunOptions.Ready (options : RunOptions) (config : Config) (source : Export)
    (store : Store) : Prop where
  extensions : config.enabledExtensions ≠ []
  written : ∀ raw ∈ options.spaces, writtenKey raw ≠ ""
  selected : options.selectedKeys source ≠ []
  waits : store.Waits ⟨options.auditDocument⟩

/-- What a run is asked to do, once its spaces are selected. -/
def RunOptions.request (options : RunOptions) (config : Config) (spaces : List SpaceSelection) :
    MigrationRequest where
  auditDocument := ⟨options.auditDocument⟩
  targetRoot := ⟨options.targetRoot.getD config.migration.targetRoot⟩
  spaces := spaces

/-- The job of a run. -/
def RunOptions.job (options : RunOptions) (config : Config) (spaces : List SpaceSelection)
    (jobId : String) : MigrationJob :=
  (MigrationJob.new jobId (options.request config spaces)).withParallelism
    config.migration.maxParallelSpaces

/-- **A run that is ready starts its job, and any other fails** and leaves the store alone. -/
theorem migrate_endsIn [LawfulMonad m] {env : Environment m} (hstill : env.Still)
    {access : Access} {config : Config} {options : RunOptions} {store : Store} {world : σ}
    {R : Except Failure Unit → Store → Prop}
    (hfails : (¬ ∃ source, Export.ofFile (exec (env.read options.exportPath) world).1 = .ok source ∧
      options.Ready config source store) → ∀ e, R (.error e) store)
    (hruns : ∀ source spaces jobId,
      Export.ofFile (exec (env.read options.exportPath) world).1 = .ok source →
      options.Ready config source store →
      (SpaceQuestion.new spaces).keys = options.selectedKeys source →
      SessionM.EndsIn (do
        let (finished, failures) ← SessionM.attempt
          (runJob env access source config.registry (options.job config spaces jobId))
        concludeRun finished failures) world store R) :
    SessionM.EndsIn (migrate env access config options) world store R := by
  rw [migrate]
  obtain ⟨hnone, e, hids⟩ | ⟨hextensions, hids⟩ := config.extensionIds_cases
  · rw [hids]
    refine ((SessionM.Ends.require _).endsIn world).after (by rintro _ ⟨⟩) ?_
    intro e _
    exact hfails (fun ⟨_, _, hready⟩ => hready.extensions hnone) e
  rw [hids]
  refine ((SessionM.Ends.require _).endsIn world).after ?_ (by rintro _ ⟨⟩)
  rintro _ ⟨⟩
  refine (SessionM.EndsIn.ask (hstill.read options.exportPath world)).after ?_ (by rintro _ ⟨⟩)
  rintro _ ⟨⟩
  cases hsource : Export.ofFile (exec (env.read options.exportPath) world).1 with
  | error e =>
    refine ((SessionM.Ends.require _).endsIn world).after (by rintro _ ⟨⟩) ?_
    intro e _
    refine hfails ?_ e
    rintro ⟨source, h, -⟩
    cases hsource.symm.trans h
  | ok source =>
    have hunready (h : ¬ options.Ready config source store) (e : Failure) : R (.error e) store := by
      refine hfails ?_ e
      rintro ⟨_, h', hready⟩
      cases hsource.symm.trans h'
      exact h hready
    refine ((SessionM.Ends.require _).endsIn world).after ?_ (by rintro _ ⟨⟩)
    rintro _ ⟨⟩
    refine ((selectSpaces_ends source options store).endsIn world).after ?_ ?_
    · rintro spaces (⟨_, ⟨⟩, hwritten, hkeys⟩ | ⟨⟨_, he⟩, -⟩)
      · have hsome : spaces.isEmpty = true ↔ options.selectedKeys source = [] := by
          rw [← hkeys, keys_new_eq_nil_iff, List.isEmpty_iff]
        split
        · next hempty =>
          refine (SessionM.Ends.fail_bind ?_).endsIn world
          exact hunready (fun hready => hready.selected (hsome.1 hempty)) _
        · next hnonempty =>
          refine ((requireWaiting_ends ⟨options.auditDocument⟩ store).endsIn world).after ?_ ?_
          · rintro _ (⟨hwaits, -⟩ | ⟨-, _, he⟩)
            · refine (SessionM.EndsIn.ask (hstill.newJobId world)).after ?_ (by rintro _ ⟨⟩)
              rintro _ ⟨⟩
              exact hruns source spaces _ hsource
                ⟨hextensions, hwritten, fun hnil => hnonempty (hsome.2 hnil), hwaits⟩ hkeys
            · cases he
          · rintro e (⟨-, he⟩ | ⟨hidle, -⟩)
            · cases he
            · exact hunready (fun hready => hidle hready.waits) e
      · cases he
    · rintro e (⟨_, he, -⟩ | ⟨-, raw, hraw, hblank⟩)
      · cases he
      · exact hunready (fun hready => hready.written raw hraw hblank) e

end CommandLine

end SpaceMigration
