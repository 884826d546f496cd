import SpaceMigration.CommandLine.Level

/-!
# Help texts

A help text says what its topic is about, how it is written, and lists in columns what can be
written.
-/

namespace SpaceMigration.CommandLine

/-! ### Columns -/

/-- A line of a list: what is written, padded to the given width, and what it is for. -/
def helpRow (width : Nat) (row : String × String) : String :=
  "  " ++ row.1 ++ "".pushn ' ' (width - row.1.length + 2) ++ row.2 ++ "\n"

/-- A titled list, as wide as its longest row. A list without rows is left out. -/
def helpSection (title : String) (rows : List (String × String)) : String :=
  if rows.isEmpty then ""
  else
    let width := (rows.map fun row => row.1.length).foldl max 0
    "\n" ++ title ++ ":\n" ++ String.join (rows.map (helpRow width))

/-- How a setting is written, with its value. -/
def Setting.usage (setting : Setting) : String :=
  "--" ++ setting.name ++ " <" ++ setting.valueName ++ ">"

/-- A setting in a list of options. -/
def Setting.helpRow (setting : Setting) : String × String :=
  let letter := match setting.letter with
    | some c => "-" ++ c.toString ++ ", "
    | none => "    "
  (letter ++ setting.usage, setting.purpose)

/-! ### Topics -/

namespace Topic

/-- What a topic is about. -/
def purpose : Topic → String
  | program => "Migrate wiki spaces and convert their macros"
  | initAudit => "Create an audit document"
  | run => "Run a migration job"
  | showAudit => "Print an audit record"
  | help => "Print this message or the help of the given subcommand(s)"

/-- The level that a topic describes. The help command takes words alone. -/
def level? : Topic → Option Level
  | program => some programLevel
  | initAudit => some initAuditLevel
  | run => some runLevel
  | showAudit => some showAuditLevel
  | help => none

/-- The operands of a topic: how they are written, and what they are for. -/
def operands : Topic → List (String × String)
  | initAudit | showAudit => [("<DOCUMENT>", "Audit document reference")]
  | help => [("[COMMAND]...", "Print help for the subcommand(s)")]
  | program | run => []

/-- The line that shows how a topic is written: the name, the options, of which the required ones
are spelled out, and the operands. -/
def usage (topic : Topic) : String :=
  let settings := (topic.level?.map (·.settings)).getD []
  let name := if topic = program then [programName] else [programName, topic.word]
  let options := if settings.any (!·.isRequired) then ["[OPTIONS]"] else []
  let required := (settings.filter (·.isRequired)).map Setting.usage
  let operands := if topic = program then ["<COMMAND>"] else topic.operands.map (·.1)
  "Usage: " ++ " ".intercalate (name ++ options ++ required ++ operands) ++ "\n"

/-- The options of a topic. -/
def options (topic : Topic) : List (String × String) :=
  match topic.level? with
  | none => []
  | some level => level.settings.map Setting.helpRow ++ [("-h, --help", "Print help")]

/-- The help text of a topic. -/
def text (topic : Topic) : String :=
  let listed := if topic = program then commands else []
  topic.purpose ++ "\n\n" ++ topic.usage ++
    helpSection "Commands" (listed.map fun command => (command.word, command.purpose)) ++
    helpSection "Arguments" topic.operands ++ helpSection "Options" topic.options

end Topic

end SpaceMigration.CommandLine
