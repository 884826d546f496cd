import SpaceMigration.Proofs.RunLaunch
import SpaceMigration.Proofs.SavedReferences
import SpaceMigration.Proofs.Words

/-!
# The root of a run

A launch that is told to run saves documents under one root: the one on its command line, or the one
in its configuration if there is none on the command line. Every document of the export has its
place under the root, and no other document changes, in whatever database.

A configuration with a blank root is refused, so the root that comes from there has a name. A root
on the command line is taken as it is. That is the only way in which the root can be blank
(`RunOptions.trim_root_eq_nil_iff`), and it does happen (`run_saves_below_blank_root`).

## Main definitions

* `Export.PlacedUnder` — the places of the documents of an export under a root

## Main results

* `RunOptions.trim_root_eq_nil_iff` — when the root of a run is blank
* `Launch.run_outcome_rows` — what a run does to the rows of any database
* `Launch.run_saves_under_root` — every document of a run is saved under its root
-/

namespace SpaceMigration

/-- The reference is the place of a document that the export lists, under the root. -/
def Export.PlacedUnder (source : Export) (root reference : EntityReference) : Prop :=
  ∃ spaceKey documentId, documentId ∈ source.documentIds spaceKey ∧
    reference = (root.child spaceKey).child documentId

/-! ### Where the root comes from -/

theorem Config.trim_targetRoot_of_validate {config : Config} (h : config.validate = .ok ()) :
    Text.trim config.migration.targetRoot.toList ≠ [] := by
  rw [validate] at h
  split at h
  · cases h
  · split at h
    · cases h
    · next hnamed => rwa [Ne, Text.trim_eq_nil_iff]

theorem Config.validate_of_parse {text : String} {config : Config} (h : parse text = .ok config) :
    config.validate = .ok () := by
  rw [parse] at h
  split at h
  · cases h
  · next read _ =>
    cases hvalid : read.validate with
    | error e =>
      rw [hvalid] at h
      cases h
    | ok =>
      rw [hvalid] at h
      cases h
      exact hvalid

namespace CommandLine

/-- The root of a configuration is not blank, also if there is no configuration file. -/
theorem trim_targetRoot_of_loadConfig {path : String} {content : FileContent} {config : Config}
    (h : loadConfig path content = .ok config) :
    Text.trim config.migration.targetRoot.toList ≠ [] := by
  cases content with
  | missing =>
    cases h
    decide
  | binary => cases h
  | text text =>
    rw [loadConfig, Config.ofFile] at h
    · cases hparse : Config.parse text with
      | error e =>
        rw [hparse] at h
        cases h
      | ok read =>
        rw [hparse] at h
        cases h
        exact Config.trim_targetRoot_of_validate (Config.validate_of_parse hparse)
    · rintro ⟨⟩

/-- The root of a run is blank exactly if a blank one stands on the command line. -/
theorem RunOptions.trim_root_eq_nil_iff (options : RunOptions) {path : String}
    {content : FileContent} {config : Config} (h : loadConfig path content = .ok config) :
    Text.trim (options.root config).path.toList = [] ↔
      ∃ text, options.targetRoot = some text ∧ Text.trim text.toList = [] := by
  rw [root]
  cases options.targetRoot with
  | none => simp [trim_targetRoot_of_loadConfig h]
  | some text => simp

/-- The documents that a run saves have their places under its root. -/
theorem RunOptions.placedUnder_of_mem_saved {options : RunOptions} {config : Config}
    {source : Export} {document : TargetDocument} (h : document ∈ options.saved config source) :
    source.PlacedUnder (options.root config) document.reference := by
  have hreference : document.reference ∈ (options.saved config source).map (·.reference) :=
    List.mem_map_of_mem h
  rw [(options.references_saved_perm config source).mem_iff] at hreference
  obtain ⟨spaceKey, -, hdocument⟩ := List.mem_flatMap.1 hreference
  obtain ⟨documentId, hid, hplace⟩ := List.mem_map.1 hdocument
  exact ⟨spaceKey, documentId, hid, hplace.symm⟩

end CommandLine

/-- With the default answer, a job saves the documents of its spaces under its root, whatever fails
on the way and wherever it is cancelled. -/
theorem MigrationJob.placedUnder_of_mem_savedReferences {σ : Type} {job : MigrationJob}
    (hanswer : job.answer = none) (source : Export) (registry : Registry) (faults : List Fault)
    (clock : StateM σ Timestamp) (isCancelled : StateM σ Bool)
    (save : TargetDocument → StateM σ (Except MigrationError Unit)) (cancelled : Bool) (world : σ) :
    let (((_, calls), _), _) := (((job.run ((Host.ofExport source registry clock isCancelled
      save).disturbed faults).observed).run []).run cancelled).run world
    ∀ reference ∈ savedReferences calls,
      source.PlacedUnder job.request.targetRoot reference := by
  have hsub := job.savedReferences_sublist hanswer source registry faults clock isCancelled save
    cancelled world
  intro reference hreference
  obtain ⟨⟨spaceKey, documentId⟩, hname, rfl⟩ := List.mem_map.1 (hsub.subset hreference)
  obtain ⟨_, -, hids⟩ := List.mem_flatMap.1 hname
  obtain ⟨_, hid, ⟨⟩⟩ := List.mem_map.1 hids
  exact ⟨spaceKey, documentId, hid, rfl⟩

namespace CommandLine

namespace Launch

variable {l : Launch} {invocation : Invocation} {options : RunOptions}

/-- **What a run does to the documents of a database**: it leaves them as they are, or saves the
documents of its spaces. -/
theorem run_outcome_rows (hparse : Invocation.parse l.arguments = .ok invocation)
    (hcommand : invocation.command = .run options) (database : String) :
    l.after database = l.before database ∨
      ∃ config location store source store',
        l.Finds invocation options config location store source ∧
        l.before database = .ok store ∧ l.after database = .ok store' ∧
        store'.SameDocuments (store.saveAll (options.saved config source)) := by
  obtain ⟨config, location, store, hopens, result, session, hends, houtcome⟩ | ⟨-, e, houtcome⟩ :=
    outcome_cases hparse
  · have hafter : l.after database =
        ((l.files.opened location).2.kept location session.store).2.storeAt database := by
      rw [after, houtcome]
    rw [hcommand] at hends
    -- The launch may keep its store in another file; then this one is not touched.
    by_cases hholds : Directory.Holds database location
    · obtain ⟨hopened, hfound⟩ := Directory.opened_of_holds hholds l.files
      obtain ⟨hkept, -⟩ | ⟨⟨path, hpath⟩, hkept⟩ :=
        Directory.kept_of_holds hholds session.store (l.files.opened location).2
      · left
        rw [hafter, hkept, hopened, before]
      · obtain ⟨hmemory, -⟩ | ⟨-, hbefore⟩ := hfound store hopens.opened
        · cases hmemory.symm.trans hpath
        obtain hsame | ⟨source, hsource, hready, hsaved⟩ := hends _ (migrate_saves
          (Directory.environment_still l.now l.jobId) location.access config options store _)
        · left
          rw [hafter, hkept, hsame]
          exact hbefore.symm
        · exact .inr ⟨config, location, store, source, session.store,
            (hopens.finds_iff hready.waits).2 hsource, hbefore, hafter.trans hkept, hsaved⟩
    · left
      rw [hafter, before, Directory.storeAt_kept_of_not_holds hholds,
        Directory.storeAt_opened_of_not_holds hholds]
  · left
    rw [after, houtcome, before]

/-- **Every document of a run is saved under its root**, whichever of the defaults, the
configuration and the command line the root comes from. The root is blank exactly if a blank one
stands on the command line. The same holds of a job that is disturbed: whatever fails on the way,
and wherever it is cancelled, it saves nothing elsewhere. -/
theorem run_saves_under_root (hparse : Invocation.parse l.arguments = .ok invocation)
    (hcommand : invocation.command = .run options) :
    (∀ config, loadConfig invocation.configPath (.ofPath (l.files.look invocation.configPath)) =
        .ok config →
      (Text.trim (options.root config).path.toList = [] ↔
        ∃ text, options.targetRoot = some text ∧ Text.trim text.toList = []) ∧
      ∀ (source : Export) (spaces : List SpaceSelection) (jobId : String) (faults : List Fault)
        (σ : Type) (clock : StateM σ Timestamp) (isCancelled : StateM σ Bool)
        (save : TargetDocument → StateM σ (Except MigrationError Unit)) (cancelled : Bool)
        (world : σ),
        let job := MigrationJob.new jobId (options.request config spaces)
        let host := (Host.ofExport source config.registry clock isCancelled save).disturbed faults
        let (((_, calls), _), _) := (((job.run host.observed).run []).run cancelled).run world
        ∀ reference ∈ savedReferences calls,
          source.PlacedUnder (options.root config) reference) ∧
    ∀ database, l.after database = l.before database ∨
      ∃ config location store source store',
        l.Finds invocation options config location store source ∧
        l.before database = .ok store ∧ l.after database = .ok store' ∧
        store'.SameDocuments (store.saveAll (options.saved config source)) ∧
        ∀ document ∈ options.saved config source,
          source.PlacedUnder (options.root config) document.reference := by
  refine ⟨fun config hconfig => ⟨options.trim_root_eq_nil_iff hconfig, ?_⟩, fun database => ?_⟩
  · intro source spaces jobId faults σ clock isCancelled save cancelled world
    exact MigrationJob.placedUnder_of_mem_savedReferences rfl source config.registry faults clock
      isCancelled save cancelled world
  · obtain hsame | ⟨config, location, store, source, store', hfinds, hbefore, hafter, hsaved⟩ :=
      run_outcome_rows hparse hcommand database
    · exact .inl hsame
    · exact .inr ⟨config, location, store, source, store', hfinds, hbefore, hafter, hsaved,
        fun _ hdocument => RunOptions.placedUnder_of_mem_saved hdocument⟩

end Launch

/-! ### A run over one document -/

/-- A launch beside the export and a database in which an audit document waits. -/
def Launch.ofHome (arguments : List String) : Launch :=
  ⟨arguments, .ofExport homeExport (Store.empty.withAuditRow ⟨"Audit"⟩), .epoch, "1"⟩

/-- The document is saved under the root on the command line, if there is one there. -/
theorem Launch.ofHome_saves {arguments : List String} {targetRoot : Option String}
    (hparse : Invocation.parse arguments = .ok ⟨defaultConfigPath, some "sqlite://wiki.db",
      .run ⟨"export.json", "Audit", [], targetRoot⟩⟩) :
    (ofHome arguments).outcome.1.code = 0 ∧ ∃ store store',
      (ofHome arguments).before "wiki.db" = .ok store ∧
      (ofHome arguments).after "wiki.db" = .ok store' ∧
      (∀ reference, store.getDocument reference = .ok none) ∧
      ∀ reference, store'.getDocument reference = .ok (lastSaved
        [⟨((⟨targetRoot.getD "Migrated"⟩ : EntityReference).child "ENG").child "home", "Home", "",
          none⟩] reference) := by
  let options : RunOptions := ⟨"export.json", "Audit", [], targetRoot⟩
  let invocation : Invocation := ⟨defaultConfigPath, some "sqlite://wiki.db", .run options⟩
  let waiting := Store.empty.withAuditRow ⟨"Audit"⟩
  let spaces : List ExportSpace := [⟨"ENG", "Engineering", [⟨"home", "Home", [], "", []⟩]⟩]
  have hspaces : Export.readSpaces? homeExport = some spaces := rfl
  have hready : options.Ready .default (.ofSpaces spaces) waiting :=
    ⟨by decide, by rintro _ ⟨⟩, by rintro ⟨⟩, _, rfl, rfl⟩
  have hyear : (ofHome arguments).now.HasPlainYear := by
    show Timestamp.epoch.HasPlainYear
    exact ⟨by decide, by decide⟩
  obtain ⟨hserved, hfinds⟩ : (ofHome arguments).Served invocation ∧ (ofHome arguments).Finds
      invocation options .default ⟨.file "wiki.db", .readWrite⟩ waiting (.ofSpaces spaces) :=
    finds_ofExport rfl rfl plain_homeExport hspaces
  obtain ⟨_, _, _, _, hfinds', -, hcode, store', hafter, hfulfilled⟩ | ⟨hunready, -⟩ :=
    run_outcome (l := ofHome arguments) hparse rfl hserved hyear
  · obtain ⟨rfl, rfl, rfl, rfl⟩ := hfinds.unique hfinds'
    have hkeys : options.selectedKeys (.ofSpaces spaces) = ["ENG"] := rfl
    have horder : Export.fairOrder (.ofSpaces spaces)
        (max Config.default.migration.maxParallelSpaces 1) ["ENG"] = [("ENG", "home")] := by
      decide +kernel
    have hsaved : options.saved .default (.ofSpaces spaces) =
        [⟨((options.root .default).child "ENG").child "home", "Home", "", none⟩] := by
      rw [RunOptions.saved, Export.migratedUnder, hkeys, horder]
      rfl
    refine ⟨hcode, waiting, store', Directory.storeAt_of_opened Directory.leads_wiki hfinds.opened,
      Directory.storeAt_of_opened Directory.leads_wiki hafter, fun _ => rfl, fun reference => ?_⟩
    have hempty : waiting.SameDocuments .empty := ⟨rfl, rfl⟩
    rw [(hfulfilled.documents.trans (hempty.saveAll _)).getDocument, Store.getDocument_saveAll,
      hsaved]
    rfl
  · exact absurd hready (hunready _ _ _ _ hfinds)

/-- Without a root on the command line, and without a configuration. -/
theorem run_saves_home_under_default_root :
    let l := Launch.ofHome
      ["--db", "sqlite://wiki.db", "run", "--export", "export.json", "--audit-doc", "Audit"]
    let options : RunOptions := ⟨"export.json", "Audit", [], none⟩
    let invocation : Invocation := ⟨defaultConfigPath, some "sqlite://wiki.db", .run options⟩
    Invocation.parse l.arguments = .ok invocation ∧ invocation.command = .run options ∧
      ∃ config source store store',
        l.before "wiki.db" = .ok store ∧ l.after "wiki.db" = .ok store' ∧
        store.getDocument ⟨"Migrated.ENG.home"⟩ = .ok none ∧
        store'.getDocument ⟨"Migrated.ENG.home"⟩ =
          .ok (some ⟨⟨"Migrated.ENG.home"⟩, "Home", "", none⟩) ∧
        store'.SameDocuments (store.saveAll (options.saved config source)) ∧
        (∀ document ∈ options.saved config source,
          source.PlacedUnder (options.root config) document.reference) ∧
        Text.trim (options.root config).path.toList ≠ [] := by
  intro l options invocation
  have hparse : Invocation.parse l.arguments = .ok invocation := rfl
  obtain ⟨-, store, store', hbefore, hafter, hnone, hsome⟩ := Launch.ofHome_saves hparse
  obtain ⟨hroot, hrows⟩ := Launch.run_saves_under_root (l := l) hparse rfl
  have hfound : store'.getDocument ⟨"Migrated.ENG.home"⟩ =
      .ok (some ⟨⟨"Migrated.ENG.home"⟩, "Home", "", none⟩) :=
    (hsome _).trans (by decide)
  refine ⟨hparse, rfl, ?_⟩
  obtain hsame | ⟨config, _, _, source, _, hfinds, hbefore', hafter', hsaved, hplaced⟩ :=
    hrows "wiki.db"
  · obtain rfl := Except.ok.inj (hafter.symm.trans (hsame.trans hbefore))
    cases (hnone _).symm.trans hfound
  · obtain rfl := Except.ok.inj (hbefore.symm.trans hbefore')
    obtain rfl := Except.ok.inj (hafter.symm.trans hafter')
    refine ⟨config, source, store, store', hbefore, hafter, hnone _, hfound, hsaved, hplaced, ?_⟩
    rw [Ne, (hroot config hfinds.loaded).1]
    rintro ⟨_, ⟨⟩, -⟩

/-- **A run can save under a blank root**, and says that it has succeeded. There is no other root
under which the reference of the document could have its place. -/
theorem run_saves_below_blank_root :
    let l := Launch.ofHome ["--db", "sqlite://wiki.db", "run", "--export", "export.json",
      "--audit-doc", "Audit", "--target-root", " "]
    l.outcome.1.code = 0 ∧ ∃ store store',
      l.before "wiki.db" = .ok store ∧ l.after "wiki.db" = .ok store' ∧
      store.getDocument ⟨" .ENG.home"⟩ = .ok none ∧
      store'.getDocument ⟨" .ENG.home"⟩ = .ok (some ⟨⟨" .ENG.home"⟩, "Home", "", none⟩) ∧
      ∀ (root : EntityReference) (spaceKey documentId : String),
        (root.child spaceKey).child documentId = ⟨" .ENG.home"⟩ →
          Text.trim root.path.toList = [] := by
  intro l
  have hparse : Invocation.parse l.arguments = .ok ⟨defaultConfigPath, some "sqlite://wiki.db",
      .run ⟨"export.json", "Audit", [], some " "⟩⟩ := rfl
  obtain ⟨hcode, store, store', hbefore, hafter, hnone, hsome⟩ := Launch.ofHome_saves hparse
  refine ⟨hcode, store, store', hbefore, hafter, hnone _, (hsome _).trans (by decide), ?_⟩
  intro root spaceKey documentId hreference
  have hpath := root.child_child_path spaceKey documentId
  rw [hreference] at hpath
  have hplain : '.' ∉ root.path.toList := by
    rw [← List.count_eq_zero]
    have hdots := congrArg (List.count '.') hpath
    simp only [List.count_append, List.count_cons_self] at hdots
    have htwo : List.count '.' (" .ENG.home".toList) = 2 := by decide
    omega
  have hbelow : ∀ c ∈ root.path.toList, decide (c ≠ '.') = true := by
    intro c hc
    rw [decide_eq_true_eq]
    rintro rfl
    exact hplain hc
  have hhead := congrArg (List.takeWhile (· ≠ '.')) hpath
  rw [List.takeWhile_append_of_pos hbelow, List.takeWhile_cons_of_neg (by simp),
    List.append_nil] at hhead
  rw [← hhead]
  decide

end CommandLine

end SpaceMigration
