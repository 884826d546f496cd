import SpaceMigration.Error
import SpaceMigration.File
import SpaceMigration.Json.Printer
import SpaceMigration.Macro.Families
import SpaceMigration.Toml.Parser

/-!
# Configuration

Where documents go, which extensions are enabled, where the store is, and how to log. A
configuration is read from TOML and checked; the sections `migration`, `storage` and `logging` are
required, but of the settings in `migration` none is.

A section may be written as an array of its settings in declaration order instead of a table. Then
the list of extensions cannot be left out, and what follows the last setting is ignored. Unknown
settings are ignored everywhere.
-/

namespace SpaceMigration

/-- The settings of a migration. -/
structure MigrationSettings where
  /-- Extension identifiers separated by commas. -/
  extensionIds : Option String
  /-- The reference under which migrated spaces are created. -/
  targetRoot : String
  /-- The number of spaces migrated at the same time. -/
  maxParallelSpaces : Nat
  /-- The marker of the task lists that are converted. -/
  tasklistMarker : String
deriving DecidableEq, Repr

/-- The settings of the log output. -/
structure LoggingSettings where
  level : String
  format : String
deriving DecidableEq, Repr

/-- A configuration. -/
structure Config where
  migration : MigrationSettings
  databaseUrl : String
  logging : LoggingSettings
deriving DecidableEq, Repr

namespace Config

/-! ### Extension identifiers -/

/-- The identifiers in a list separated by commas: its segments without the white space around
them, as far as they are not blank. -/
def splitExtensionIds (raw : String) : List String :=
  (((Text.segments ',' raw.toList).map Text.trim).filter fun segment => !segment.isEmpty).map
    String.ofList

/-- The identifiers in a list separated by commas; a list without any is refused. -/
def parseExtensionIds (raw : String) : Except MigrationError (List String) :=
  let ids := splitExtensionIds raw
  if ids.isEmpty then .error ⟨.config, "migration.extension_ids is empty"⟩ else .ok ids

/-- The enabled extensions, in configured order. -/
def extensionIds (config : Config) : Except MigrationError (List String) :=
  match config.migration.extensionIds with
  | some raw => parseExtensionIds raw
  | none => .error ⟨.config, "migration.extension_ids is not set"⟩

/-! ### Defaults and validity -/

/-- The settings of a migration that sets none. -/
def defaultMigration : MigrationSettings :=
  ⟨none, "Migrated", 4, legacyMarker⟩

/-- The configuration in force when there is no configuration file. -/
def default : Config where
  migration := { defaultMigration with
    extensionIds := some "macro-tasklist,macro-code,macro-panel" }
  databaseUrl := "sqlite://migration.db"
  logging := ⟨"info", "pretty"⟩

/-- Refuses a configuration that allows no space at a time, and then one whose root is blank. -/
def validate (config : Config) : Except MigrationError Unit :=
  if config.migration.maxParallelSpaces = 0 then
    .error ⟨.config, "migration.max_parallel_spaces must be at least 1"⟩
  else if Text.isBlank config.migration.targetRoot.toList then
    .error ⟨.config, "migration.target_root must not be empty"⟩
  else .ok ()

/-! ### Reading -/

open Toml (Value)

/-- A text setting. -/
def asText : Value → Option String
  | .string s => some s
  | _ => none

/-- A setting that counts. -/
def asCount : Value → Option Nat
  | .integer n => if 0 ≤ n then some n.toNat else none
  | _ => none

/-- The settings of a section, by name. An array gives its names in declaration order; a date is a
section without any known setting. -/
def settings? (names : List String) : Value → Option (List (String × Value))
  | .table entries => some entries
  | .array items => some (names.zip items)
  | .datetime => some []
  | _ => none

/-- A required setting. -/
def required {α : Type} (settings : List (String × Value)) (name : String)
    (read : Value → Option α) : Option α :=
  (settings.lookup name).bind read

/-- A setting with a default. -/
def withDefault {α : Type} (settings : List (String × Value)) (name : String) (default : α)
    (read : Value → Option α) : Option α :=
  match settings.lookup name with
  | none => some default
  | some v => read v

/-- Reads the section `migration`. -/
def readMigration (v : Value) : Option MigrationSettings := do
  let settings ← settings? ["extension_ids", "target_root", "max_parallel_spaces",
    "tasklist_marker"] v
  let extensionIds ← match v, settings with
    | .array _, [] => none
    | _, _ => withDefault settings "extension_ids" none (fun v => (asText v).map some)
  let targetRoot ← withDefault settings "target_root" defaultMigration.targetRoot asText
  let maxParallelSpaces ←
    withDefault settings "max_parallel_spaces" defaultMigration.maxParallelSpaces asCount
  let tasklistMarker ←
    withDefault settings "tasklist_marker" defaultMigration.tasklistMarker asText
  return ⟨extensionIds, targetRoot, maxParallelSpaces, tasklistMarker⟩

/-- Reads the section `storage`. -/
def readStorage (v : Value) : Option String := do
  let settings ← settings? ["database_url"] v
  required settings "database_url" asText

/-- Reads the section `logging`. -/
def readLogging (v : Value) : Option LoggingSettings := do
  let settings ← settings? ["level", "format"] v
  let level ← required settings "level" asText
  let format ← required settings "format" asText
  return ⟨level, format⟩

/-- Reads the table of a configuration. -/
def ofTable (entries : List (String × Value)) : Option Config := do
  let migration ← required entries "migration" readMigration
  let databaseUrl ← required entries "storage" readStorage
  let logging ← required entries "logging" readLogging
  return ⟨migration, databaseUrl, logging⟩

/-- Reads and checks the text of a configuration. -/
def parse (text : String) : Except MigrationError Config := do
  match (Toml.parse? text).bind ofTable with
  | none => throw ⟨.config, "Failed to parse config: the text is not a configuration in TOML"⟩
  | some config =>
    config.validate
    return config

/-- Reads and checks a configuration file. -/
def ofFile : FileContent → Except MigrationError Config
  | .missing => .error ⟨.config, "Failed to read config file: there is no such file"⟩
  | .binary => .error ⟨.config, "Failed to read config file: the file is not text in UTF-8"⟩
  | .text content => parse content

/-! ### Writing -/

/-- A character inside a basic string. -/
def escape (c : Char) : List Char :=
  if c = '"' || c = '\\' then ['\\', c]
  else if c.toNat < 0x20 || c.toNat = 0x7F then
    ['\\', 'u', '0', '0', Json.hexDigit (c.toNat / 16), Json.hexDigit (c.toNat % 16)]
  else [c]

/-- A text setting on a line of its own. -/
def textLine (name value : String) : List Char :=
  name.toList ++ ' ' :: '=' :: ' ' :: '"' :: (value.toList.flatMap escape ++ ['"', '\n'])

/-- The text of a configuration. -/
def toToml (config : Config) : String :=
  String.ofList <|
    "[migration]\n".toList ++
    ((config.migration.extensionIds.map (textLine "extension_ids")).getD []) ++
    textLine "target_root" config.migration.targetRoot ++
    "max_parallel_spaces = ".toList ++ Nat.toDigits 10 config.migration.maxParallelSpaces ++
    "\n".toList ++ textLine "tasklist_marker" config.migration.tasklistMarker ++
    "\n[storage]\n".toList ++ textLine "database_url" config.databaseUrl ++
    "\n[logging]\n".toList ++ textLine "level" config.logging.level ++
    textLine "format" config.logging.format

end Config

end SpaceMigration
