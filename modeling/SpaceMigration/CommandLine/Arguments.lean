import SpaceMigration.CommandLine.Help
import SpaceMigration.Text.Segment

/-!
# Reading the arguments of the command line

Arguments are read from left to right, and the first one that cannot stand where it stands decides:
it is a misuse, or a request for help.

* The value of a setting may be attached to it, or is the next argument; in that case it does not
  start with a hyphen, unless it is a hyphen alone.
* A value that is an argument of its own is checked when the next option is met, or at the end. So
  help asked for behind the command wins over a value before the command that would be refused.
* `--` ends the options of its level.

## Main definitions

* `Invocation`, `Command` — what the arguments ask for
* `Level.scan` — the arguments of one level, by recursion on the arguments
* `Invocation.parse` — the whole command line
-/

namespace SpaceMigration.CommandLine

/-! ### What is asked for -/

/-- What a run is asked to do. -/
structure RunOptions where
  exportPath : String
  auditDocument : String
  /-- The selected spaces as they are written; all spaces when there are none. -/
  spaces : List String
  targetRoot : Option String
deriving DecidableEq, Repr

/-- A command. -/
inductive Command where
  | initAudit (document : String)
  | run (options : RunOptions)
  | showAudit (document : String)
deriving DecidableEq, Repr

/-- What a command line asks for. -/
structure Invocation where
  configPath : String
  /-- The database URL, if it overrides the one in the configuration. -/
  databaseUrl : Option String
  command : Command
deriving DecidableEq, Repr

/-- What is wrong with a command line. -/
inductive Misuse where
  /-- The argument cannot stand where it stands. -/
  | unexpected (argument : String)
  /-- The setting has no value, or an empty one where that is not allowed. -/
  | noValue (setting : String)
  /-- The setting is given more than once. -/
  | repeated (setting : String)
  /-- Something required is not there. -/
  | missing (what : String)
  | unknownCommand (word : String)
deriving DecidableEq, Repr

/-- Why a command line is not carried out. -/
inductive Refusal where
  | help (topic : Topic)
  | misuse (fault : Misuse)
deriving DecidableEq, Repr

/-- The words for a misuse. -/
def Misuse.message : Misuse → String
  | unexpected argument => "error: unexpected argument '" ++ argument ++ "' found"
  | noValue setting => "error: a value is required for '--" ++ setting ++ "' but none was supplied"
  | repeated setting => "error: the argument '--" ++ setting ++ "' cannot be used multiple times"
  | missing what => "error: the following required argument was not provided: " ++ what
  | unknownCommand word => "error: unrecognized subcommand '" ++ word ++ "'"

/-! ### One level -/

/-- How an argument reads at a level. -/
inductive Reading where
  | endOfOptions
  | operand
  | help
  /-- A setting with the value attached to it. -/
  | setting (setting : Setting) (attached : Option String)
  | unexpected
deriving DecidableEq, Repr

/-- Whether an argument can be an operand or a value of its own. -/
def isOperand (argument : String) : Bool :=
  match argument.toList with
  | '-' :: _ :: _ => false
  | _ => true

/-- The value attached to a letter: what follows it, without an equals sign in front. -/
def attachedValue : List Char → Option String
  | [] => none
  | '=' :: value => some (String.ofList value)
  | value => some (String.ofList value)

namespace Level

/-- How a long option reads at a level. -/
def readName (level : Level) (name : String) (attached : Option String) : Reading :=
  if name = "help" then if attached.isSome then .unexpected else .help
  else match level.settings.find? fun setting => setting.name == name with
    | some setting => .setting setting attached
    | none => .unexpected

/-- How a short option reads at a level. -/
def readLetter (level : Level) (letter : Char) (rest : List Char) : Reading :=
  if letter = 'h' then .help
  else match level.settings.find? fun setting => setting.letter == some letter with
    | some setting => .setting setting (attachedValue rest)
    | none => .unexpected

/-- How an argument reads at a level. -/
def read (level : Level) (argument : String) : Reading :=
  match argument.toList with
  | ['-', '-'] => .endOfOptions
  | '-' :: '-' :: rest =>
    match Text.cutAt '=' rest with
    | some (name, value) => level.readName (String.ofList name) (some (String.ofList value))
    | none => level.readName (String.ofList rest) none
  | '-' :: letter :: rest => level.readLetter letter rest
  | _ => .operand

end Level

/-- What has been read at a level. -/
structure Scan where
  /-- The checked values of settings, by the names of the settings, in order. -/
  settled : List (String × String)
  /-- The value that is still to be checked. -/
  pending : Option (Setting × String)
  operands : List String
deriving DecidableEq, Repr

namespace Scan

/-- Nothing has been read yet. -/
def empty : Scan := ⟨[], none, []⟩

/-- Checks the value that is still to be checked. -/
def settle (s : Scan) : Except Refusal Scan :=
  match s.pending with
  | none => .ok s
  | some (setting, value) =>
    if setting.isPath && value.isEmpty then .error (.misuse (.noValue setting.name))
    else if !setting.repeats && s.settled.any fun entry => entry.1 == setting.name then
      .error (.misuse (.repeated setting.name))
    else .ok ⟨s.settled ++ [(setting.name, value)], none, s.operands⟩

/-- Adds an operand, up to a limit. -/
def addOperand (s : Scan) (limit : Nat) (operand : String) : Except Refusal Scan := do
  let s ← s.settle
  if s.operands.length < limit then return { s with operands := s.operands ++ [operand] }
  else throw (.misuse (.unexpected operand))

/-- The values of a setting, in order. -/
def values (s : Scan) (setting : Setting) : List String :=
  (s.settled.filter fun entry => entry.1 == setting.name).map (·.2)

/-- The value of a setting, if it was given. -/
def value? (s : Scan) (setting : Setting) : Option String :=
  (s.values setting).head?

/-- The value of a setting that has to be given. -/
def required (s : Scan) (setting : Setting) : Except Refusal String :=
  match s.value? setting with
  | some value => .ok value
  | none => .error (.misuse (.missing setting.usage))

end Scan

namespace Level

/-- Reads arguments that are operands whatever they look like. -/
def scanOperands (level : Level) (s : Scan) (arguments : List String) : Except Refusal Scan :=
  match level.operands with
  | .atMost limit => arguments.foldlM (fun s argument => s.addOperand limit argument) s
  | .command =>
    match arguments with
    | [] => .ok s
    | argument :: _ => .error (.misuse (.unexpected argument))

/-- Reads the arguments of a level up to the command, if it has one. Returns what was read and the
arguments from the command on. -/
def scan (level : Level) (s : Scan) : List String → Except Refusal (Scan × List String)
  | [] => .ok (s, [])
  | argument :: rest =>
    match level.read argument with
    | .unexpected => .error (.misuse (.unexpected argument))
    | .endOfOptions => (level.scanOperands s rest).map (·, [])
    | .help => s.settle.bind fun _ => .error (.help level.topic)
    | .operand =>
      match level.operands with
      | .command => .ok (s, argument :: rest)
      | .atMost limit => (s.addOperand limit argument).bind fun s => level.scan s rest
    | .setting setting (some value) =>
      (s.settle.bind fun s => { s with pending := some (setting, value) }.settle).bind fun s =>
        level.scan s rest
    | .setting setting none =>
      s.settle.bind fun s =>
        match rest with
        | value :: rest =>
          if isOperand value then level.scan { s with pending := some (setting, value) } rest
          else .error (.misuse (.noValue setting.name))
        | [] => .error (.misuse (.noValue setting.name))

/-- Reads all arguments of the level of a command. -/
def scanAll (level : Level) (arguments : List String) : Except Refusal Scan := do
  let (s, _) ← level.scan .empty arguments
  s.settle

end Level

/-! ### The whole command line -/

/-- The one operand of a level, an audit document. -/
def readDocument (level : Level) (arguments : List String) : Except Refusal String := do
  let s ← level.scanAll arguments
  match s.operands with
  | document :: _ => return document
  | [] => throw (.misuse (.missing "<DOCUMENT>"))

/-- The options of a run. -/
def readRun (arguments : List String) : Except Refusal RunOptions := do
  let s ← runLevel.scanAll arguments
  let exportPath ← s.required exportSetting
  let auditDocument ← s.required auditSetting
  return ⟨exportPath, auditDocument, s.values spaceSetting, s.value? rootSetting⟩

/-- The topic that help is asked for. -/
def readTopic : List String → Except Refusal Topic
  | [] => .ok .program
  | word :: rest =>
    match Topic.ofWord? word, rest with
    | some topic, [] => .ok topic
    | some _, extra :: _ => .error (.misuse (.unknownCommand extra))
    | none, _ => .error (.misuse (.unknownCommand word))

/-- Reads a command from its word and the arguments behind it. -/
def Command.read (word : String) (arguments : List String) : Except Refusal Command :=
  match Topic.ofWord? word with
  | some .initAudit => (readDocument initAuditLevel arguments).map .initAudit
  | some .run => (readRun arguments).map .run
  | some .showAudit => (readDocument showAuditLevel arguments).map .showAudit
  | some .help => (readTopic arguments).bind fun topic => .error (.help topic)
  | _ => .error (.misuse (.unknownCommand word))

/-- Reads a command line. -/
def Invocation.parse (arguments : List String) : Except Refusal Invocation := do
  match ← programLevel.scan .empty arguments with
  | (_, []) => throw (.misuse (.missing "<COMMAND>"))
  | (s, word :: rest) =>
    let command ← Command.read word rest
    let s ← s.settle
    return ⟨(s.value? configSetting).getD defaultConfigPath, s.value? databaseSetting, command⟩

end SpaceMigration.CommandLine
