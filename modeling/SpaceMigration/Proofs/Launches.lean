import SpaceMigration.CommandLine.Directory
import SpaceMigration.Proofs.CommandEffects
import SpaceMigration.Proofs.StoreImage

/-!
# Launches of the program

A launch is one run of the program: its arguments, the directory it is started in, and what it
learns of the time and of identifiers. A launch works on a database if the store it opens is kept in
that file, or nowhere. What the rows of the database are before a launch and after it is read off
the two directories.

## Main definitions

* `Launch`, `Launch.outcome` — a run of the program, and what it leaves
* `Directory.storeAt` — the rows of a database
* `Directory.opened`, `Directory.kept` — a store at a location, before a command and after it
* `Launch.Opens` — what a launch opens
* `RowEffect` — what a launch does to the rows of its database

## Main results

* `Directory.opened_file_cases`, `Directory.kept_file_eq` — opening and keeping a store in a file
* `Launch.outcome_cases` — how a launch ends
* `Launch.rowEffect` — every launch that finds a database leaves one, and has one of three effects
  on its rows
-/

namespace SpaceMigration.CommandLine

open Stateful (exec exec_pure exec_bind exec_stateT)

namespace Directory

/-- The rows of the database in a file. There are none before the file is created. -/
def storeAt (files : Directory) (database : String) : Except MigrationError Store :=
  match files.get? database with
  | none => .ok .empty
  | some bytes => Store.ofImage bytes

/-- A path that can lead to a file leads to this one. -/
def Leads (database path : String) : Prop :=
  ∀ names, names? path = some names → "/".intercalate names = database

/-- A store at the location is kept in the database or nowhere. -/
def Holds (database : String) (location : StoreLocation) : Prop :=
  ∀ path, location.place = .file path → Leads database path

theorem storeAt_insert_image (files : Directory) (database : String) (store : Store) :
    storeAt (files.insert database store.image) database = .ok store := by
  rw [storeAt, StringMap.get?_insert, if_pos rfl]
  exact store.ofImage_image

variable {database path : String} {files : Directory}

theorem storeAt_of_look_eq_file (hleads : Leads database path) {bytes : ByteArray}
    (h : files.look path = .file bytes) : files.storeAt database = Store.ofImage bytes := by
  rw [look] at h
  cases hnames : names? path with
  | none =>
    rw [hnames] at h
    cases h
  | some names =>
    simp only [hnames, hleads names hnames] at h
    split at h
    · cases h
    · split at h
      · cases h
      · cases hget : files.get? database with
        | none =>
          rw [hget] at h
          cases h
        | some found =>
          rw [hget] at h
          cases h
          rw [storeAt, hget]

/-- A file is written whole at its path, or not at all. -/
theorem write_cases (hleads : Leads database path) (bytes : ByteArray) (files : Directory) :
    write path bytes files = (false, files) ∨
      write path bytes files = (true, files.insert database bytes) ∧
        (files.look path = .nothing → files.get? database = none) := by
  rw [write, look]
  cases hnames : names? path with
  | none => exact .inl rfl
  | some names =>
    simp only [hleads names hnames]
    split
    · exact .inl rfl
    · next hfile =>
      simp only [Bool.or_eq_true, not_or, Bool.not_eq_true] at hfile
      refine .inr ⟨rfl, ?_⟩
      simp only [hfile.1.1, hfile.1.2, Bool.false_eq_true, ↓reduceIte]
      cases files.get? database with
      | none => exact fun _ => rfl
      | some bytes => rintro ⟨⟩

theorem environment_still (now : Timestamp) (jobId : String) : (environment now jobId).Still where
  look _ _ := rfl
  clock _ := rfl
  newJobId _ := rfl

/-! ### Opening and keeping a store -/

/-- The store that a launch opens at the location, and the directory then. The time of the launch
and the identifier of its job do not matter. -/
def opened (files : Directory) (location : StoreLocation) :
    Except MigrationError Store × Directory :=
  ((environment .epoch "").openStore location).run files

/-- How a launch keeps the store at the location, and the directory then. -/
def kept (files : Directory) (location : StoreLocation) (store : Store) :
    Except MigrationError Unit × Directory :=
  ((environment .epoch "").keepStore location store).run files

theorem exec_opened (files : Directory) (location : StoreLocation) (now : Timestamp)
    (jobId : String) : exec ((environment now jobId).openStore location) (files, ()) =
      ((files.opened location).1, (files.opened location).2, ()) :=
  rfl

theorem exec_kept (files : Directory) (location : StoreLocation) (store : Store) (now : Timestamp)
    (jobId : String) : exec ((environment now jobId).keepStore location store) (files, ()) =
      ((files.kept location store).1, (files.kept location store).2, ()) :=
  rfl

theorem run_look_bind (now : Timestamp) (jobId path : String) {α : Type}
    (f : PathContent → StateM Directory α) (files : Directory) :
    ((environment now jobId).look path >>= f).run files = (f (files.look path)).run files :=
  rfl

theorem run_write_bind (now : Timestamp) (jobId path : String) (bytes : ByteArray) {α : Type}
    (f : Bool → StateM Directory α) (files : Directory) :
    ((environment now jobId).write path bytes >>= f).run files =
      (f (write path bytes files).1).run (write path bytes files).2 :=
  rfl

theorem write_eq_of_not_written {bytes : ByteArray} (h : (write path bytes files).1 = false) :
    (write path bytes files).2 = files := by
  rw [write] at h ⊢
  split
  · rfl
  · next hnames =>
    simp only [hnames] at h
    split
    · rfl
    · next hfile =>
      rw [if_neg hfile] at h
      cases h

/-- A store is opened from a file or created, if it is opened at all. A file that holds an image is
not refused for reading and writing. -/
theorem opened_file_cases (files : Directory) (path : String) (access : Access) :
    (∃ e, files.opened ⟨.file path, access⟩ = (.error e, files) ∧
      (access = .readWrite → ∀ bytes, files.look path ≠ .file bytes)) ∨
    (∃ bytes, files.look path = .file bytes ∧
      files.opened ⟨.file path, access⟩ = (Store.ofImage bytes, files)) ∨
    files.look path = .nothing ∧ (write path Store.empty.image files).1 = true ∧
      files.opened ⟨.file path, access⟩ = (.ok .empty, (write path Store.empty.image files).2) := by
  rw [opened, Environment.openStore]
  dsimp only
  rw [run_look_bind]
  cases files.look path with
  | directory => exact .inl ⟨_, rfl, by rintro _ _ ⟨⟩⟩
  | file bytes =>
    dsimp only
    split
    · next hempty =>
      have hnew : Store.ofImage bytes = .ok .empty := by
        rw [Store.ofImage, if_pos (by simpa [ByteArray.isEmpty] using hempty)]
      cases access with
      | readWrite => exact .inr (.inl ⟨bytes, rfl, by rw [hnew]; rfl⟩)
      | readOnly => exact .inl ⟨_, rfl, by rintro ⟨⟩⟩
    · exact .inr (.inl ⟨bytes, rfl, rfl⟩)
  | nothing =>
    cases access with
    | readOnly => exact .inl ⟨_, rfl, by rintro ⟨⟩⟩
    | readWrite =>
      dsimp only
      rw [run_write_bind]
      cases hdone : (write path Store.empty.image files).1 with
      | true => exact .inr (.inr ⟨rfl, rfl, rfl⟩)
      | false =>
        rw [write_eq_of_not_written hdone]
        exact .inl ⟨_, rfl, by rintro _ _ ⟨⟩⟩

/-- A store is kept in a file by writing its image. -/
theorem kept_file_eq (files : Directory) (path : String) (store : Store) :
    files.kept ⟨.file path, .readWrite⟩ store =
      (if (write path store.image files).1 then .ok ()
        else .error ⟨.database, "the file cannot be written"⟩,
        (write path store.image files).2) := by
  rw [kept, Environment.keepStore]
  dsimp only
  rw [run_write_bind]
  cases (write path store.image files).1 <;> rfl

/-- A file that is written at a path elsewhere leaves the rows of the database as they are. -/
theorem storeAt_write_of_not_leads (h : ¬ Leads database path) (bytes : ByteArray)
    (files : Directory) : (write path bytes files).2.storeAt database = files.storeAt database := by
  rw [write]
  cases hnames : names? path with
  | none => rfl
  | some names =>
    have hne : "/".intercalate names ≠ database := by
      rintro hsame
      refine h fun names' hnames' => ?_
      obtain rfl := Option.some.inj (hnames.symm.trans hnames')
      exact hsame
    dsimp only
    split
    · rfl
    · rw [storeAt, storeAt, StringMap.get?_insert, if_neg hne.symm]

/-- A store that opens elsewhere leaves the rows of the database as they are. -/
theorem storeAt_opened_of_not_holds {location : StoreLocation} (h : ¬ Holds database location)
    (files : Directory) :
    (files.opened location).2.storeAt database = files.storeAt database := by
  obtain ⟨place, access⟩ := location
  cases place with
  | memory => rfl
  | file path =>
    have hleads : ¬ Leads database path := fun hleads => h (by rintro _ ⟨⟩; exact hleads)
    obtain ⟨_, hopened, -⟩ | ⟨_, -, hopened⟩ | ⟨-, -, hopened⟩ :=
      files.opened_file_cases path access
    · rw [hopened]
    · rw [hopened]
    · rw [hopened]
      exact storeAt_write_of_not_leads hleads _ files

/-- A store that is kept elsewhere leaves the rows of the database as they are. -/
theorem storeAt_kept_of_not_holds {location : StoreLocation} (h : ¬ Holds database location)
    (store : Store) (files : Directory) :
    (files.kept location store).2.storeAt database = files.storeAt database := by
  obtain ⟨place, access⟩ := location
  cases place with
  | memory => rfl
  | file path =>
    have hleads : ¬ Leads database path := fun hleads => h (by rintro _ ⟨⟩; exact hleads)
    cases access with
    | readOnly => rfl
    | readWrite =>
      rw [kept_file_eq]
      exact storeAt_write_of_not_leads hleads _ files

/-- A store that cannot be opened leaves the directory as it was. -/
theorem opened_of_error {location : StoreLocation} {e : MigrationError}
    (h : (files.opened location).1 = .error e) : (files.opened location).2 = files := by
  obtain ⟨place, access⟩ := location
  cases place with
  | memory => rfl
  | file path =>
    obtain ⟨_, hopened, -⟩ | ⟨_, -, hopened⟩ | ⟨-, -, hopened⟩ :=
      files.opened_file_cases path access
    · rw [hopened]
    · rw [hopened]
    · rw [hopened] at h
      cases h

/-- Opening a store leaves the rows of the database as they are. A store that is kept in the
database has these rows, and a store that is kept nowhere has none. -/
theorem opened_of_holds {location : StoreLocation} (hholds : Holds database location)
    (files : Directory) :
    (files.opened location).2.storeAt database = files.storeAt database ∧
      ∀ store, (files.opened location).1 = .ok store →
        (location.place = .memory ∧ store = .empty) ∨
          (∃ path, location.place = .file path) ∧ files.storeAt database = .ok store := by
  obtain ⟨place, access⟩ := location
  cases place with
  | memory =>
    refine ⟨rfl, fun store hstore => .inl ⟨rfl, ?_⟩⟩
    cases access with
    | readWrite => exact (Except.ok.inj hstore).symm
    | readOnly => cases hstore
  | file path =>
    have hpath := hholds path rfl
    obtain ⟨e, hopened, -⟩ | ⟨bytes, hlook, hopened⟩ | ⟨hnothing, hdone, hopened⟩ :=
      files.opened_file_cases path access
    · rw [hopened]
      exact ⟨rfl, by rintro _ ⟨⟩⟩
    · rw [hopened]
      exact ⟨rfl, fun store hstore => .inr ⟨⟨path, rfl⟩,
        (storeAt_of_look_eq_file hpath hlook).trans hstore⟩⟩
    · rw [hopened]
      obtain h | ⟨h, hmissing⟩ := write_cases hpath Store.empty.image files
      · rw [h] at hdone
        cases hdone
      · have hempty : files.storeAt database = .ok .empty := by
          rw [storeAt, hmissing hnothing]
        rw [h]
        refine ⟨(storeAt_insert_image files database .empty).trans hempty.symm, ?_⟩
        intro store hstore
        exact .inr ⟨⟨path, rfl⟩, hempty.trans hstore⟩

/-- A store that opens from the file of the database has its rows. -/
theorem storeAt_of_opened {access : Access} {store : Store} (hleads : Leads database path)
    (h : (files.opened ⟨.file path, access⟩).1 = .ok store) :
    files.storeAt database = .ok store := by
  have hholds : Holds database ⟨.file path, access⟩ := by
    rintro _ ⟨⟩
    exact hleads
  obtain ⟨-, hfound⟩ := opened_of_holds hholds files
  obtain ⟨hmemory, -⟩ | ⟨-, hstore⟩ := hfound store h
  · cases hmemory
  · exact hstore

/-- Keeping a store writes its rows to the database, or changes nothing. Where it changes nothing
without being at fault, the store is kept nowhere or was opened for reading only. -/
theorem kept_of_holds {location : StoreLocation} (hholds : Holds database location) (store : Store)
    (files : Directory) :
    ((files.kept location store).2 = files ∧ ((∃ e, (files.kept location store).1 = .error e) ∨
      location.place = .memory ∨ location.access = .readOnly)) ∨
      (∃ path, location.place = .file path) ∧
        (files.kept location store).2.storeAt database = .ok store := by
  obtain ⟨place, access⟩ := location
  cases place with
  | memory => exact .inl ⟨rfl, .inr (.inl rfl)⟩
  | file path =>
    cases access with
    | readOnly => exact .inl ⟨rfl, .inr (.inr rfl)⟩
    | readWrite =>
      rw [kept_file_eq]
      obtain h | ⟨h, -⟩ := write_cases (hholds path rfl) store.image files
      · rw [h]
        exact .inl ⟨rfl, .inl ⟨_, rfl⟩⟩
      · rw [h]
        exact .inr ⟨⟨path, rfl⟩, storeAt_insert_image files database store⟩

end Directory

/-! ### Carrying out a command line -/

/-- What a run of the program does to the rows of its database, by its command and its exit: it
leaves them alone, which is a failure of a `run`; or it creates the row of its audit document, if
there is none; or it executes the record of its audit document. -/
inductive RowEffect (command? : Option Command) (exit : Exit) (store : Store) : Store → Prop
  | nothing (h : ∀ options, command? = some (.run options) → exit.code ≠ 0) :
    RowEffect command? exit store store
  | created (document : String) (h : command? = some (.initAudit document)) :
    RowEffect command? exit store (store.withAuditRow ⟨document⟩)
  | executed (options : RunOptions) {store' : Store} (h : command? = some (.run options))
    (h' : store.Executes ⟨options.auditDocument⟩ store') : RowEffect command? exit store store'

theorem Exit.code_ofResult_eq_zero_iff (output : List String) (result : Except Failure Unit) :
    (Exit.ofResult output result).code = 0 ↔ result = .ok () := by
  cases result <;> simp [ofResult]

theorem Exit.code_ofResult_ne_zero (output : List String) {result : Except Failure Unit}
    (h : ∃ e, result = .error e) : (Exit.ofResult output result).code ≠ 0 := by
  obtain ⟨e, rfl⟩ := h
  exact Nat.one_ne_zero

/-- A command is carried out as its steps end. -/
theorem Command.exec_runOn_of_endsIn {env : Environment (StateM Directory)} {access : Access}
    {config : Config} {command : Command} {store : Store} {files : Directory}
    {Q : Except Failure Unit → Store → Prop}
    (h : (command.perform env access config).EndsIn (files, ()) store Q) :
    ∃ result session, exec (command.runOn env access config store) (files, ()) =
      ((result, session), files, ()) ∧ Q result session.store := by
  obtain ⟨hresult, hworld⟩ := h []
  rw [exec_stateT] at hresult hworld
  exact ⟨_, _, Prod.ext rfl hworld, hresult⟩

/-- What comes after the store is opened. -/
theorem RowEffect.of_opened {database : String} {location : StoreLocation}
    (hholds : Directory.Holds database location) {files : Directory} {opened store : Store}
    (hstore : files.storeAt database = .ok store)
    (hopened : location.place = .memory ∧ opened = .empty ∨
      (∃ path, location.place = .file path) ∧ files.storeAt database = .ok opened)
    {command : Command} {result : Except Failure Unit} {session : Session}
    (heffect : command.Effect location.access result opened session.store) :
    let (kept, files') := files.kept location session.store
    ∃ store', files'.storeAt database = .ok store' ∧
      RowEffect (some command) (.ofResult session.output
        (result.bind fun _ => kept.mapError Failure.ofError)) store store' := by
  have hkept := Directory.kept_of_holds hholds session.store files
  generalize files.kept location session.store = r at hkept ⊢
  obtain ⟨kept, files'⟩ := r
  obtain ⟨rfl, hreason⟩ | ⟨⟨path, hpath⟩, hstored⟩ := hkept
  · -- Nothing is kept. A run whose job was carried out has failed to keep it.
    refine ⟨store, hstore, .nothing ?_⟩
    rintro options ⟨⟩
    apply Exit.code_ofResult_ne_zero
    obtain ⟨⟨e, rfl⟩, -⟩ | ⟨haccess, hexecutes⟩ := heffect
    · exact ⟨e, rfl⟩
    · obtain ⟨e, rfl⟩ | hmemory | hreadOnly := hreason
      · cases result with
        | ok => exact ⟨_, rfl⟩
        | error e => exact ⟨e, rfl⟩
      · obtain ⟨-, rfl⟩ | ⟨⟨path, hpath⟩, -⟩ := hopened
        · exact absurd hexecutes.waits Store.not_waits_empty
        · cases hmemory.symm.trans hpath
      · cases hreadOnly.symm.trans haccess
  · obtain ⟨hmemory, -⟩ | ⟨-, hopened⟩ := hopened
    · cases hmemory.symm.trans hpath
    obtain rfl : store = opened := Except.ok.inj (hstore.symm.trans hopened)
    refine ⟨session.store, hstored, ?_⟩
    cases command with
    | initAudit document =>
      obtain hsame | hcreated := heffect
      · rw [hsame]
        exact .nothing (by rintro _ ⟨⟩)
      · rw [hcreated]
        exact .created document rfl
    | run options =>
      obtain ⟨⟨e, rfl⟩, hsame⟩ | ⟨-, hexecutes⟩ := heffect
      · rw [hsame]
        exact .nothing fun _ _ => Exit.code_ofResult_ne_zero _ ⟨e, rfl⟩
      · exact .executed options rfl hexecutes
    | showAudit document =>
      have hsame : session.store = store := heffect
      rw [hsame]
      exact .nothing (by rintro _ ⟨⟩)

/-! ### Launches -/

/-- One run of the program, with the time and the job identifier it meets. -/
structure Launch where
  arguments : List String
  files : Directory
  now : Timestamp
  jobId : String

namespace Launch

/-- How the launch ends, and the directory it leaves. -/
def outcome (l : Launch) : Exit × Directory :=
  (runProgram (Directory.environment l.now l.jobId) l.arguments).run l.files

/-- What the arguments ask for, if they can be read. -/
def invocation? (l : Launch) : Option Invocation :=
  (Invocation.parse l.arguments).toOption

/-- The command that the launch carries out. -/
def command? (l : Launch) : Option Command :=
  l.invocation?.map (·.command)

/-- Where the launch keeps its store, if it gets to open one. -/
def location? (l : Launch) : Option StoreLocation := do
  let invocation ← l.invocation?
  let content := FileContent.ofPath (l.files.look invocation.configPath)
  let config ← (loadConfig invocation.configPath content).toOption
  (StoreLocation.parse (invocation.databaseUrl.getD config.databaseUrl)).toOption

/-- The launch keeps rows in the database or nowhere. -/
def Uses (database : String) (l : Launch) : Prop :=
  ∀ location, l.location? = some location → Directory.Holds database location

/-- The rows of the database before the launch. -/
def before (database : String) (l : Launch) : Except MigrationError Store :=
  l.files.storeAt database

/-- The rows of the database after the launch. -/
def after (database : String) (l : Launch) : Except MigrationError Store :=
  l.outcome.2.storeAt database

theorem command?_eq_some {l : Launch} {invocation : Invocation}
    (h : Invocation.parse l.arguments = .ok invocation) :
    l.command? = some invocation.command := by
  rw [command?, invocation?, h]
  rfl

theorem location?_eq_some {l : Launch} {invocation : Invocation} {config : Config}
    {location : StoreLocation} (h : Invocation.parse l.arguments = .ok invocation)
    (hconfig : loadConfig invocation.configPath
      (.ofPath (l.files.look invocation.configPath)) = .ok config)
    (hlocation : StoreLocation.parse (invocation.databaseUrl.getD config.databaseUrl) =
      .ok location) : l.location? = some location := by
  simp [location?, invocation?, h, hconfig, hlocation, Except.toOption]

/-- With `--db`, the database does not depend on the configuration. -/
theorem Uses.of_databaseUrl {database url : String} {l : Launch} {invocation : Invocation}
    (h : Invocation.parse l.arguments = .ok invocation) (hurl : invocation.databaseUrl = some url)
    (hholds : ∀ location, StoreLocation.parse url = .ok location →
      Directory.Holds database location) : l.Uses database := by
  intro location hlocation
  simp only [location?, invocation?, h, hurl, Except.toOption, Option.bind_eq_bind,
    Option.bind_some, Option.getD_some, Option.bind_eq_some_iff] at hlocation
  obtain ⟨_, -, hurl⟩ := hlocation
  cases hparse : StoreLocation.parse url with
  | error e =>
    rw [hparse] at hurl
    cases hurl
  | ok found =>
    rw [hparse] at hurl
    cases hurl
    exact hholds location hparse

/-- The launch opens a store: its configuration loads, the database is a location, and a store opens
there. -/
structure Opens (l : Launch) (invocation : Invocation) (config : Config)
    (location : StoreLocation) (store : Store) : Prop where
  loaded : loadConfig invocation.configPath (.ofPath (l.files.look invocation.configPath)) =
    .ok config
  located : StoreLocation.parse (invocation.databaseUrl.getD config.databaseUrl) = .ok location
  opened : (l.files.opened location).1 = .ok store

/-- What a launch opens is determined by the directory it is started in. -/
theorem Opens.unique {l : Launch} {invocation : Invocation} {config config' : Config}
    {location location' : StoreLocation} {store store' : Store}
    (h : l.Opens invocation config location store)
    (h' : l.Opens invocation config' location' store') :
    config = config' ∧ location = location' ∧ store = store' := by
  obtain rfl := Except.ok.inj (h.loaded.symm.trans h'.loaded)
  obtain rfl := Except.ok.inj (h.located.symm.trans h'.located)
  exact ⟨rfl, rfl, Except.ok.inj (h.opened.symm.trans h'.opened)⟩

/-- **How a launch ends.** It opens a store, carries out its command as the steps of the command
end, and keeps the store, or it opens none, fails, and leaves its directory as it was. -/
theorem outcome_cases {l : Launch} {invocation : Invocation}
    (hparse : Invocation.parse l.arguments = .ok invocation) :
    (∃ config location store, l.Opens invocation config location store ∧
      ∃ (result : Except Failure Unit) (session : Session),
        (∀ Q, SessionM.EndsIn (invocation.command.perform (Directory.environment l.now l.jobId)
          location.access config) ((l.files.opened location).2, ()) store Q →
            Q result session.store) ∧
        let kept := (l.files.opened location).2.kept location session.store
        l.outcome = (.ofResult session.output
          (result.bind fun _ => kept.1.mapError Failure.ofError), kept.2)) ∨
      (∀ config location store, ¬ l.Opens invocation config location store) ∧
        ∃ e, l.outcome = (.ofResult [] (.error e), l.files) := by
  have houtcome : l.outcome =
      let r := exec (runProgram (Directory.environment l.now l.jobId) l.arguments) (l.files, ())
      (r.1, r.2.1) := rfl
  have hread : exec ((Directory.environment l.now l.jobId).read invocation.configPath)
      (l.files, ()) = (.ofPath (l.files.look invocation.configPath), l.files, ()) := rfl
  rw [houtcome, runProgram, hparse]
  dsimp only
  rw [Invocation.run, exec_bind, hread]
  cases hconfig : loadConfig invocation.configPath
      (.ofPath (l.files.look invocation.configPath)) with
  | error e =>
    dsimp only
    rw [exec_pure]
    refine .inr ⟨fun _ _ _ h => ?_, e, rfl⟩
    cases hconfig.symm.trans h.loaded
  | ok config =>
    dsimp only
    cases hlocation : StoreLocation.parse (invocation.databaseUrl.getD config.databaseUrl) with
    | error e =>
      dsimp only
      rw [exec_pure]
      refine .inr ⟨fun _ _ _ h => ?_, .ofError e, rfl⟩
      obtain rfl := Except.ok.inj (hconfig.symm.trans h.loaded)
      cases hlocation.symm.trans h.located
    | ok location =>
      dsimp only
      rw [exec_bind, Directory.exec_opened]
      cases hstore : (l.files.opened location).1 with
      | error e =>
        dsimp only
        rw [exec_pure, Directory.opened_of_error hstore]
        refine .inr ⟨fun _ _ _ h => ?_, .ofError e, rfl⟩
        obtain rfl := Except.ok.inj (hconfig.symm.trans h.loaded)
        obtain rfl := Except.ok.inj (hlocation.symm.trans h.located)
        cases hstore.symm.trans h.opened
      | ok store =>
        obtain ⟨result, session, hrun, -⟩ := Command.exec_runOn_of_endsIn
          ((invocation.command.perform_ends (Directory.environment_still l.now l.jobId)
            location.access config store).endsIn ((l.files.opened location).2, ()))
        dsimp only
        rw [exec_bind, hrun, exec_bind, Directory.exec_kept, exec_pure]
        refine .inl ⟨config, location, store, ⟨hconfig, hlocation, hstore⟩, result, session, ?_,
          rfl⟩
        intro Q hends
        obtain ⟨_, _, hrun', hQ⟩ := Command.exec_runOn_of_endsIn hends
        cases hrun.symm.trans hrun'
        exact hQ

/-- **What a launch does.** Where it finds a database it leaves one, with one of three effects on
the rows. -/
theorem rowEffect {database : String} {l : Launch} (huses : l.Uses database) {store : Store}
    (hbefore : l.before database = .ok store) :
    ∃ store', l.after database = .ok store' ∧
      RowEffect l.command? l.outcome.1 store store' := by
  cases hparse : Invocation.parse l.arguments with
  | error refusal =>
    have hcommand : l.command? = none := by
      rw [command?, invocation?, hparse]
      rfl
    have houtcome : l.outcome = (.ofRefusal refusal, l.files) := by
      rw [outcome, runProgram, hparse]
      rfl
    rw [after, houtcome, hcommand]
    exact ⟨store, hbefore, .nothing (by rintro _ ⟨⟩)⟩
  | ok invocation =>
    rw [after, command?_eq_some hparse]
    obtain ⟨config, location, opened, hopens, result, session, hends, houtcome⟩ |
      ⟨-, e, houtcome⟩ := outcome_cases hparse
    · have heffect := hends _ ((invocation.command.perform_ends
        (Directory.environment_still l.now l.jobId) location.access config opened).endsIn _)
      have hholds := huses location (location?_eq_some hparse hopens.loaded hopens.located)
      obtain ⟨hfiles, hfound⟩ := Directory.opened_of_holds hholds l.files
      rw [houtcome]
      refine RowEffect.of_opened hholds (hfiles.trans hbefore) ?_ heffect
      obtain h | ⟨hplace, h⟩ := hfound opened hopens.opened
      · exact .inl h
      · exact .inr ⟨hplace, hfiles.trans h⟩
    · rw [houtcome]
      exact ⟨store, hbefore, .nothing fun _ _ => Exit.code_ofResult_ne_zero [] ⟨e, rfl⟩⟩

end Launch

/-! ### A database in the directory of a launch -/

theorem Directory.parse_wiki :
    StoreLocation.parse "sqlite://wiki.db" = .ok ⟨.file "wiki.db", .readWrite⟩ := by
  have hurl : StoreLocation.ofUrl? "sqlite://wiki.db" = some ⟨.file "wiki.db", .readWrite⟩ := by
    decide +kernel
  rw [StoreLocation.parse, hurl]

theorem Directory.leads_wiki : Leads "wiki.db" "wiki.db" := by
  rintro names hnames
  cases hnames.symm.trans (show names? "wiki.db" = some ["wiki.db"] from rfl)
  rfl

end SpaceMigration.CommandLine
