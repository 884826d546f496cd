import SpaceMigration.Proofs.Launches
import SpaceMigration.Proofs.RunCommand

/-!
# Launches that migrate

A launch that is told to run either migrates its spaces or exits with a failure. Which of the two
it does is decided before its job starts: it exits with 0 exactly if its configuration loads, its
export can be read, and the run is ready for them and for the store in its database. The database
is assumed to work. What a successful launch has done is found when its database is opened again.

The time of the launch shows a year from 0 to 9999, as far as the stored format goes.

## Main definitions

* `Launch.Served` — the database works
* `Launch.Finds` — what a launch finds in its directory
* `Directory.ofExport` — a directory with an export and a database

## Main results

* `Directory.opened_of_kept` — a store that is kept is opened again
* `Launch.run_exits_zero_iff_ready` — when a launch exits with 0, and what it has done then
-/

namespace SpaceMigration.CommandLine

open Stateful (exec)

namespace Directory

/-- A file is no directory. -/
theorem hasDirectory_insert_self (files : Directory) (names : List String) (bytes : ByteArray)
    (h : files.hasDirectory names = false) :
    hasDirectory (files.insert ("/".intercalate names) bytes) names = false := by
  rw [hasDirectory, Bool.or_eq_false_iff, List.any_eq_false] at h ⊢
  refine ⟨h.1, ?_⟩
  intro key hkey
  obtain ⟨⟨_, value⟩, hentry, rfl⟩ := List.mem_map.1 hkey
  obtain hself | hold := StringMap.mem_insertEntry hentry
  · obtain ⟨rfl, rfl⟩ := Prod.mk.inj hself
    intro hlonger
    have hlength := (List.isPrefixOf_iff_prefix.1 hlonger).length_le
    rw [String.toList_append, List.length_append] at hlength
    exact absurd hlength (by simp)
  · exact h.2 _ (List.mem_map_of_mem hold)

variable {path : String} {names : List String} {files files' : Directory} {bytes : ByteArray}

/-- A path that can lead to a file leads to what is under its names. -/
theorem look_eq (hnames : names? path = some names) (hfile : files.hasDirectory names = false)
    (hend : endsAsDirectory path = false) :
    files.look path = (files.get? ("/".intercalate names)).elim .nothing .file := by
  simp only [look, hnames, hfile, hend, Bool.false_eq_true, ↓reduceIte]
  cases files.get? ("/".intercalate names) <;> rfl

/-- A path that can lead to a file is written if the directory of the file is there. -/
theorem write_eq (hnames : names? path = some names) (hfile : files.hasDirectory names = false)
    (hend : endsAsDirectory path = false) (hparent : files.hasDirectory names.dropLast = true)
    (bytes : ByteArray) :
    write path bytes files = (true, files.insert ("/".intercalate names) bytes) := by
  simp [write, hnames, hfile, hend, hparent]

/-- A file that is written is found at its path. -/
theorem look_of_write (h : write path bytes files = (true, files')) :
    files'.look path = .file bytes := by
  rw [write] at h
  cases hnames : names? path with
  | none =>
    rw [hnames] at h
    cases h
  | some names =>
    simp only [hnames] at h
    split at h
    · cases h
    · next hfile =>
      cases h
      simp only [Bool.or_eq_true, not_or, Bool.not_eq_true] at hfile
      rw [look_eq hnames (hasDirectory_insert_self _ _ _ hfile.1.1) hfile.1.2,
        StringMap.get?_insert, if_pos rfl]
      rfl

variable {location : StoreLocation} {store : Store}

/-- A store in which a document waits was found in a file, and opening it has changed nothing. A
store that is new, or that is in memory, is empty. -/
theorem opened_of_waits (h : (files.opened location).1 = .ok store) {document : EntityReference}
    (hwaits : store.Waits document) :
    (∃ path, location.place = .file path) ∧ (files.opened location).2 = files := by
  obtain ⟨place, access⟩ := location
  cases place with
  | memory =>
    cases access with
    | readOnly => cases h
    | readWrite =>
      cases h
      exact absurd hwaits Store.not_waits_empty
  | file path =>
    refine ⟨⟨path, rfl⟩, ?_⟩
    obtain ⟨e, hopened, -⟩ | ⟨bytes, -, hopened⟩ | ⟨-, -, hopened⟩ :=
      files.opened_file_cases path access
    · exact congrArg Prod.snd hopened
    · exact congrArg Prod.snd hopened
    · rw [hopened] at h
      cases h
      exact absurd hwaits Store.not_waits_empty

/-- A file at the location is opened as the image that it holds. -/
theorem opened_of_look_eq_file (h : files.look path = .file bytes) :
    files.opened ⟨.file path, .readWrite⟩ = (Store.ofImage bytes, files) := by
  obtain ⟨e, -, hrefused⟩ | ⟨found, hlook, hopened⟩ | ⟨hnothing, -, -⟩ :=
    files.opened_file_cases path .readWrite
  · exact absurd h (hrefused rfl bytes)
  · cases h.symm.trans hlook
    exact hopened
  · cases h.symm.trans hnothing

/-- A store that is kept in a file is opened again. -/
theorem opened_of_kept (h : (files.kept ⟨.file path, .readWrite⟩ store).1 = .ok ()) :
    ((files.kept ⟨.file path, .readWrite⟩ store).2.opened ⟨.file path, .readWrite⟩).1 =
      .ok store := by
  rw [kept_file_eq] at h ⊢
  have hdone : (write path store.image files).1 = true := by
    by_contra hfailed
    rw [if_neg hfailed] at h
    cases h
  rw [opened_of_look_eq_file (look_of_write (Prod.ext hdone rfl)), store.ofImage_image]

end Directory

theorem ofPath_file_toUTF8 (content : String) :
    FileContent.ofPath (.file content.toUTF8) = .text content := by
  rw [FileContent.ofPath, String.toUTF8_eq_toByteArray, fromUTF8?_toByteArray]

namespace Launch

/-- The database does its part in the launch. If the configuration loads, it names a location for
reading and writing, a store opens there, and every store can be kept there. -/
def Served (l : Launch) (invocation : Invocation) : Prop :=
  ∀ config, loadConfig invocation.configPath (.ofPath (l.files.look invocation.configPath)) =
      .ok config →
    ∃ location store, StoreLocation.parse (invocation.databaseUrl.getD config.databaseUrl) =
        .ok location ∧ location.access = .readWrite ∧
      (l.files.opened location).1 = .ok store ∧
      ∀ store', ((l.files.opened location).2.kept location store').1 = .ok ()

/-- What a launch that is told to run finds: its configuration, the location of its database, the
store there, and its export. -/
structure Finds (l : Launch) (invocation : Invocation) (options : RunOptions) (config : Config)
    (location : StoreLocation) (store : Store) (source : Export) : Prop where
  loaded : loadConfig invocation.configPath (.ofPath (l.files.look invocation.configPath)) =
    .ok config
  located : StoreLocation.parse (invocation.databaseUrl.getD config.databaseUrl) = .ok location
  opened : (l.files.opened location).1 = .ok store
  read : Export.ofFile (.ofPath (l.files.look options.exportPath)) = .ok source

variable {l : Launch} {invocation : Invocation} {options : RunOptions} {config : Config}
  {location : StoreLocation} {store : Store}

theorem Finds.opens {source : Export}
    (h : l.Finds invocation options config location store source) :
    l.Opens invocation config location store :=
  ⟨h.loaded, h.located, h.opened⟩

/-- What a launch finds is determined by the directory it is started in. -/
theorem Finds.unique {config' : Config} {location' : StoreLocation} {store' : Store}
    {source source' : Export} (h : l.Finds invocation options config location store source)
    (h' : l.Finds invocation options config' location' store' source') :
    config = config' ∧ location = location' ∧ store = store' ∧ source = source' := by
  obtain ⟨rfl, rfl, rfl⟩ := h.opens.unique h'.opens
  exact ⟨rfl, rfl, rfl, Except.ok.inj (h.read.symm.trans h'.read)⟩

/-- A run for a document that waits reads the export that its launch finds: opening the store has
left the directory as it was. -/
theorem Opens.finds_iff (h : l.Opens invocation config location store)
    {document : EntityReference} (hwaits : store.Waits document) {source : Export} :
    l.Finds invocation options config location store source ↔
      Export.ofFile (exec ((Directory.environment l.now l.jobId).read options.exportPath)
        ((l.files.opened location).2, ())).1 = .ok source := by
  have hread (files : Directory) : (exec ((Directory.environment l.now l.jobId).read
      options.exportPath) (files, ())).1 = .ofPath (files.look options.exportPath) := rfl
  rw [hread, (Directory.opened_of_waits h.opened hwaits).2]
  exact ⟨fun hfinds => hfinds.read, fun hsource => ⟨h.loaded, h.located, h.opened, hsource⟩⟩

/-- A launch that is told to run is ready and fulfils its run, or it is not ready and fails. -/
theorem run_outcome (hparse : Invocation.parse l.arguments = .ok invocation)
    (hcommand : invocation.command = .run options) (hserved : l.Served invocation)
    (hnow : l.now.HasPlainYear) :
    (∃ config location store source, l.Finds invocation options config location store source ∧
      options.Ready config source store ∧ l.outcome.1.code = 0 ∧
      ∃ store', (l.outcome.2.opened location).1 = .ok store' ∧
        options.Fulfilled config source store store') ∨
    (∀ config location store source, l.Finds invocation options config location store source →
      ¬ options.Ready config source store) ∧ l.outcome.1.code ≠ 0 := by
  obtain ⟨config, location, store, hopens, result, session, hends, houtcome⟩ |
    ⟨hnone, e, houtcome⟩ := outcome_cases hparse
  · obtain ⟨⟨place, access⟩, _, hlocation, rfl, hstore, hkeeps⟩ := hserved config hopens.loaded
    obtain ⟨-, rfl, rfl⟩ := hopens.unique ⟨hopens.loaded, hlocation, hstore⟩
    dsimp only at houtcome
    rw [hkeeps] at houtcome
    have hcode : l.outcome.1.code = 0 ↔ result = .ok () := by
      rw [houtcome, Exit.code_ofResult_eq_zero_iff]
      cases result <;> simp [Except.bind, Except.mapError]
    rw [hcommand] at hends
    obtain ⟨⟨source, hsource, hready, hfulfilled⟩, hresult⟩ | ⟨hunready, e, hresult⟩ :=
      hends _ (migrate_succeeds_iff_ready (Directory.environment_still l.now l.jobId) _ hnow config
        options store)
    · left
      obtain ⟨⟨path, rfl⟩, -⟩ := Directory.opened_of_waits hstore hready.waits
      refine ⟨config, _, store, source, (hopens.finds_iff hready.waits).2 hsource, hready,
        hcode.2 hresult, session.store, ?_, hfulfilled⟩
      rw [houtcome]
      exact Directory.opened_of_kept (hkeeps session.store)
    · right
      constructor
      · intro config' location' opened source hfinds hready
        obtain ⟨rfl, rfl, rfl⟩ := hopens.unique hfinds.opens
        exact hunready ⟨source, (hopens.finds_iff hready.waits).1 hfinds, hready⟩
      · rw [Ne, hcode, hresult]
        rintro ⟨⟩
  · refine .inr ⟨fun _ _ _ _ hfinds _ => hnone _ _ _ hfinds.opens, ?_⟩
    rw [houtcome]
    exact Exit.code_ofResult_ne_zero [] ⟨e, rfl⟩

/-- **A launch that is told to run exits with 0 exactly if it is ready**, and then it has done what
it was asked to do. -/
theorem run_exits_zero_iff_ready (hparse : Invocation.parse l.arguments = .ok invocation)
    (hcommand : invocation.command = .run options) (hserved : l.Served invocation)
    (hnow : l.now.HasPlainYear) :
    (l.outcome.1.code = 0 ↔ ∃ config location store source,
        l.Finds invocation options config location store source ∧
          options.Ready config source store) ∧
      ∀ config location store source,
        l.Finds invocation options config location store source → l.outcome.1.code = 0 →
          ∃ store', (l.outcome.2.opened location).1 = .ok store' ∧
            options.Fulfilled config source store store' := by
  obtain ⟨config, location, store, source, hfinds, hready, hcode, hdone⟩ | ⟨hunready, hcode⟩ :=
    run_outcome hparse hcommand hserved hnow
  · refine ⟨⟨fun _ => ⟨config, location, store, source, hfinds, hready⟩, fun _ => hcode⟩, ?_⟩
    intro config' location' store' source' hfinds' _
    obtain ⟨rfl, rfl, rfl, rfl⟩ := hfinds.unique hfinds'
    exact hdone
  · refine ⟨⟨fun hzero => absurd hzero hcode, ?_⟩, fun _ _ _ _ _ hzero => absurd hzero hcode⟩
    rintro ⟨config, location, store, source, hfinds, hready⟩
    exact absurd hready (hunready config location store source hfinds)

end Launch

/-! ### Beside an export and a database -/

/-- A directory with an export and a database, and without a configuration. -/
def Directory.ofExport (exported : Json.Value) (store : Store) : Directory :=
  ⟨[("export.json", exported.compact.toUTF8), ("wiki.db", store.image)],
    List.pairwise_pair.2 (show "export.json" < "wiki.db" by decide)⟩

namespace Directory

variable (exported : Json.Value) (store : Store)

theorem hasDirectory_ofExport {name : String}
    (h : name ∈ ["wiki.db", "export.json", defaultConfigPath]) :
    (ofExport exported store).hasDirectory [name] = false := by
  have hkeys : (ofExport exported store).keys = ["export.json", "wiki.db"] := rfl
  revert name
  simp only [hasDirectory, hkeys]
  decide

theorem look_ofExport {name : String}
    (h : name ∈ ["wiki.db", "export.json", defaultConfigPath]) :
    (ofExport exported store).look name =
      ((ofExport exported store).get? name).elim .nothing .file := by
  have hnames : ∀ name ∈ ["wiki.db", "export.json", defaultConfigPath], names? name = some [name] ∧
      endsAsDirectory name = false := by decide
  exact look_eq (hnames name h).1 (hasDirectory_ofExport exported store h) (hnames name h).2

theorem opened_ofExport :
    (ofExport exported store).opened ⟨.file "wiki.db", .readWrite⟩ =
      (.ok store, ofExport exported store) := by
  rw [opened_of_look_eq_file (look_ofExport exported store (by simp)), Store.ofImage_image]

theorem kept_ofExport (store' : Store) :
    ((ofExport exported store).kept ⟨.file "wiki.db", .readWrite⟩ store').1 = .ok () := by
  have hwrite : write "wiki.db" store'.image (ofExport exported store) =
      (true, (ofExport exported store).insert "wiki.db" store'.image) :=
    write_eq (by decide) (hasDirectory_ofExport exported store (by simp)) (by decide) rfl _
  rw [kept_file_eq, hwrite]
  rfl

end Directory

namespace Launch

variable {l : Launch} {exported : Json.Value} {store : Store} {options : RunOptions}

/-- What a launch finds beside an export and a database. -/
theorem finds_ofExport (hfiles : l.files = .ofExport exported store)
    (hexport : options.exportPath = "export.json") (hplain : exported.Plain)
    {spaces : List ExportSpace} (hspaces : Export.readSpaces? exported = some spaces) :
    let invocation : Invocation := ⟨defaultConfigPath, some "sqlite://wiki.db", .run options⟩
    l.Served invocation ∧ l.Finds invocation options .default ⟨.file "wiki.db", .readWrite⟩ store
      (.ofSpaces spaces) := by
  intro invocation
  have hopened : l.files.opened ⟨.file "wiki.db", .readWrite⟩ = (.ok store, l.files) := by
    rw [hfiles, Directory.opened_ofExport]
  have hconfig : l.files.look defaultConfigPath = .nothing := by
    rw [hfiles, Directory.look_ofExport exported store (by simp)]
    rfl
  have hread : l.files.look "export.json" = .file exported.compact.toUTF8 := by
    rw [hfiles, Directory.look_ofExport exported store (by simp)]
    rfl
  constructor
  · intro config _
    refine ⟨_, store, Directory.parse_wiki, rfl, congrArg Prod.fst hopened, ?_⟩
    intro store'
    rw [hopened, hfiles, Directory.kept_ofExport]
  · refine ⟨?_, Directory.parse_wiki, congrArg Prod.fst hopened, ?_⟩
    · rw [hconfig]
      rfl
    · rw [hexport, hread, ofPath_file_toUTF8, Export.ofFile, Export.parse, Export.spacesOf?,
        hplain.parse?_compact, Option.bind_some, hspaces]

end Launch

/-- An export with one document. -/
def homeExport : Json.Value :=
  .record [("spaces", .array [.record [("key", .text "ENG"), ("name", .text "Engineering"),
    ("documents", .array [.record [("id", .text "home"), ("title", .text "Home")]])]])]

theorem plain_homeExport : homeExport.Plain := by
  have hdocument : (Json.Value.record [("id", .text "home"), ("title", .text "Home")]).Plain :=
    .record (by simp [Json.Value.Plain.text])
  have hdocuments : (Json.Value.array [.record [("id", .text "home"),
      ("title", .text "Home")]]).Plain := .array (by simp [hdocument])
  refine .record ?_
  simp only [List.forall_mem_singleton]
  refine .array ?_
  simp only [List.forall_mem_singleton]
  refine .record ?_
  simp [Json.Value.Plain.text, hdocuments]

/-- A launch that is told to migrate two spaces. Its export has one of them, with one document. -/
theorem run_exits_zero_with_missing_space :
    let waiting := Store.empty.withAuditRow ⟨"Audit"⟩
    let l : Launch := ⟨["--db", "sqlite://wiki.db", "run", "--export", "export.json",
      "--audit-doc", "Audit", "--space", "ENG", "--space", "OPS: Operations"],
      .ofExport homeExport waiting, .epoch, "1"⟩
    let options : RunOptions := ⟨"export.json", "Audit", ["ENG", "OPS: Operations"], none⟩
    let invocation : Invocation := ⟨defaultConfigPath, some "sqlite://wiki.db", .run options⟩
    Invocation.parse l.arguments = .ok invocation ∧ l.Served invocation ∧ l.now.HasPlainYear ∧
      l.outcome.1.code = 0 ∧
      ∃ store', (l.outcome.2.opened ⟨.file "wiki.db", .readWrite⟩).1 = .ok store' ∧
        store'.getDocument ⟨"Migrated.ENG.home"⟩ =
          .ok (some ⟨⟨"Migrated.ENG.home"⟩, "Home", "", none⟩) ∧
        ∃ record log, store'.loadRecord ⟨"Audit"⟩ = .ok (some record) ∧
          record.migratedSpaces = [⟨"Migrated.ENG"⟩] ∧
          (Json.Value.parse? record.logText).bind (·.asList LogEvent.ofJson?) = some log ∧
          errorMessages log = [spaceNotFound "OPS"] := by
  intro waiting l options invocation
  let spaces : List ExportSpace := [⟨"ENG", "Engineering", [⟨"home", "Home", [], "", []⟩]⟩]
  have hparse : Invocation.parse l.arguments = .ok invocation := rfl
  have hyear : l.now.HasPlainYear := ⟨by decide, by decide⟩
  have hspaces : Export.readSpaces? homeExport = some spaces := rfl
  obtain ⟨hserved, hfinds⟩ : l.Served invocation ∧ l.Finds invocation options .default
      ⟨.file "wiki.db", .readWrite⟩ waiting (.ofSpaces spaces) :=
    Launch.finds_ofExport rfl rfl plain_homeExport hspaces
  have hready : options.Ready .default (.ofSpaces spaces) waiting :=
    ⟨by decide, by decide, by decide, _, rfl, rfl⟩
  obtain ⟨hcode, hdone⟩ := Launch.run_exits_zero_iff_ready hparse rfl hserved hyear
  have hzero := hcode.2 ⟨_, _, _, _, hfinds, hready⟩
  obtain ⟨store', hstore, hfulfilled⟩ := hdone _ _ _ _ hfinds hzero
  obtain ⟨record, log, hload, -, -, hmigrated, hlog, herrors⟩ := hfulfilled.recorded
  have hkeys : options.selectedKeys (.ofSpaces spaces) = ["ENG", "OPS"] := by decide
  have horder : Export.fairOrder (.ofSpaces spaces)
      (max Config.default.migration.maxParallelSpaces 1) ["ENG", "OPS"] = [("ENG", "home")] := by
    decide +kernel
  have hsaved : options.saved .default (.ofSpaces spaces) =
      [⟨⟨"Migrated.ENG.home"⟩, "Home", "", none⟩] := by
    rw [RunOptions.saved, Export.migratedUnder, hkeys, horder]
    decide +kernel
  have hempty : waiting.SameDocuments .empty := ⟨rfl, rfl⟩
  have hmissing : ((options.selectedKeys (.ofSpaces spaces)).filter fun key =>
      !(Export.ofSpaces spaces).contains key) = ["OPS"] := by decide
  refine ⟨hparse, hserved, hyear, hzero, store', hstore, ?_, record, log, hload,
    hmigrated.trans (by decide), hlog, ?_⟩
  · rw [(hfulfilled.documents.trans (hempty.saveAll _)).getDocument, Store.getDocument_saveAll,
      hsaved]
    rfl
  · rw [herrors, hmissing]
    rfl

end SpaceMigration.CommandLine
