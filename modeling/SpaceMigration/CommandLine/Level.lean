/-!
# What may be written on the command line

The command line has two levels: what stands before the command, and what stands behind it. A level
is described by its settings, the options that take a value, and by the operands it takes. The
descriptions serve the reading of arguments (`SpaceMigration.CommandLine.Arguments`) and the help
text (`SpaceMigration.CommandLine.Help`).
-/

namespace SpaceMigration.CommandLine

/-- An option that takes a value: `--name value` or `--name=value`, and with a letter also
`-l value`, `-lvalue` or `-l=value`. -/
structure Setting where
  name : String
  letter : Option Char := none
  /-- What the value is called in the help text. -/
  valueName : String
  /-- What the setting is for. -/
  purpose : String
  /-- A path is not empty. -/
  isPath : Bool := false
  /-- Whether the setting may be given more than once. -/
  repeats : Bool := false
  isRequired : Bool := false
deriving DecidableEq, Repr

/-- What the help text can be about. -/
inductive Topic where
  | program
  | initAudit
  | run
  | showAudit
  | help
deriving DecidableEq, Repr

/-- What stands at a level in place of options. -/
inductive Operands where
  /-- The first operand is a command, and the rest belongs to it. -/
  | command
  /-- At most the given number of operands. -/
  | atMost (limit : Nat)
deriving DecidableEq, Repr

/-- What may be written at one level. -/
structure Level where
  topic : Topic
  settings : List Setting
  operands : Operands
deriving DecidableEq, Repr

/-- The name of the program. -/
def programName : String := "wiki-migrator"

/-- The path of the configuration file that is looked for when none is named. -/
def defaultConfigPath : String := "config.toml"

/-! ### Settings -/

/-- The configuration file. -/
def configSetting : Setting where
  name := "config"
  letter := some 'c'
  valueName := "CONFIG"
  purpose := "Configuration file (defaults apply when it does not exist) [default: " ++
    defaultConfigPath ++ "]"
  isPath := true

/-- The database URL. -/
def databaseSetting : Setting where
  name := "db"
  valueName := "DB"
  purpose := "Database URL, overrides storage.database_url"

/-- The export to migrate. -/
def exportSetting : Setting where
  name := "export"
  valueName := "EXPORT"
  purpose := "JSON export of the source wiki"
  isPath := true
  isRequired := true

/-- The audit document of a run. -/
def auditSetting : Setting where
  name := "audit-doc"
  valueName := "AUDIT_DOC"
  purpose := "Audit document the run is recorded in"
  isRequired := true

/-- A selected space. -/
def spaceSetting : Setting where
  name := "space"
  valueName := "SPACES"
  purpose := "Space to migrate, as KEY or KEY:Name (repeatable; all spaces when omitted)"
  repeats := true

/-- The root of the migrated spaces. -/
def rootSetting : Setting where
  name := "target-root"
  valueName := "TARGET_ROOT"
  purpose := "Target root, overrides migration.target_root"

/-! ### Levels -/

/-- What stands before the command. -/
def programLevel : Level :=
  ⟨.program, [configSetting, databaseSetting], .command⟩

/-- What stands behind `init-audit`. -/
def initAuditLevel : Level :=
  ⟨.initAudit, [], .atMost 1⟩

/-- What stands behind `run`. -/
def runLevel : Level :=
  ⟨.run, [exportSetting, auditSetting, spaceSetting, rootSetting], .atMost 0⟩

/-- What stands behind `show-audit`. -/
def showAuditLevel : Level :=
  ⟨.showAudit, [], .atMost 1⟩

/-- The word for a topic on the command line. -/
def Topic.word : Topic → String
  | program => programName
  | initAudit => "init-audit"
  | run => "run"
  | showAudit => "show-audit"
  | help => "help"

/-- The topics that are commands, in the order of the help text. -/
def Topic.commands : List Topic :=
  [initAudit, run, showAudit, help]

/-- The command with the given word. -/
def Topic.ofWord? (word : String) : Option Topic :=
  commands.find? fun topic => topic.word == word

end SpaceMigration.CommandLine
