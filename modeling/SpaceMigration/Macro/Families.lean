import SpaceMigration.Macro.Checklist
import SpaceMigration.Macro.Converter
import SpaceMigration.Text.Lowercase

/-!
# The macro families

Converters for the macro families that extensions enable.

| Extension        | Macros of the source             | Macros of the target                  |
|------------------|----------------------------------|---------------------------------------|
| `macro-tasklist` | `tasklist`                       | `checklist`                           |
| `macro-code`     | `code`, `noformat`               | `code`                                |
| `macro-panel`    | `info`, `note`, `tip`, `warning` | `info`, `warning`, `success`, `error` |
| `macro-toc`      | `toc`                            | `toc`                                 |
-/

namespace SpaceMigration

/-- The marker of task lists written by the legacy exporter. -/
def legacyMarker : String := "123_test_123"

/-! ### Single converters -/

/-- The title parameter of an occurrence alone. -/
def titleOnly (o : Occurrence) : Parameters :=
  match o.parameter? "title" with
  | none => .empty
  | some title => .ofList [("title", title)]

namespace Converter

/-- Turns task lists that carry the marker into checklists; other task lists stay as they are. -/
def taskList (marker : String) : Converter where
  accepts o := Text.occursIn marker.toList o.body.toList
  targetId _ := "checklist"
  mapParameters o := .ok (titleOnly o)
  mapBody o := .ok (String.ofList (Checklist.ofTaskList marker.toList o.body.toList))

/-- The language of a code block, in lower case; preformatted text has none. -/
def codeLanguage (o : Occurrence) : Option String :=
  if o.id = "noformat" then some "none" else (o.parameter? "language").map Text.lowercase

/-- The parameters of a code block: language, title and whether lines are numbered. -/
def codeParameters (o : Occurrence) : Parameters :=
  .ofList <|
    ((codeLanguage o).map fun language => ("language", language)).toList ++
    ((o.parameter? "title").map fun title => ("title", title)).toList ++
    if o.parameter? "linenumbers" = some "true" then [("layout", "linenumbers")] else []

/-- Converts code blocks and preformatted text. -/
def code : Converter where
  targetId _ := "code"
  mapParameters o := .ok (codeParameters o)

/-- The target of a panel, by the panel's identifier. -/
def panelTarget (id : String) : String :=
  if id = "note" then "warning"
  else if id = "tip" then "success"
  else if id = "warning" then "error"
  else "info"

/-- Converts coloured panels. -/
def panel : Converter where
  targetId o := panelTarget o.id
  mapParameters o := .ok (titleOnly o)

end Converter

/-! ### Renaming parameters -/

/-- A table of parameter names. -/
structure Renaming where
  /-- The identifier of the converted macro. -/
  target : String
  /-- Pairs of an old and a new name; of a repeated old name the first pair counts. -/
  rules : List (String × String)
  /-- Whether a parameter without a rule is kept under its name instead of dropped. -/
  keepUnmapped : Bool

namespace Renaming

/-- The new name of a parameter, if it has one. -/
def image? (table : Renaming) (name : String) : Option String :=
  match table.rules.find? fun rule => rule.1 == name with
  | some rule => some rule.2
  | none => if table.keepUnmapped then some name else none

/-- The parameters under their new names. When two names become one, the value of the greater name
counts. -/
def apply (table : Renaming) (parameters : Parameters) : Parameters :=
  .ofList <| parameters.entries.filterMap fun entry =>
    (table.image? entry.1).map fun name => (name, entry.2)

end Renaming

/-- Converts a macro by renaming its parameters. -/
def Converter.rename (table : Renaming) : Converter where
  targetId _ := table.target
  mapParameters o := .ok (table.apply o.parameters)

/-- The levels of a table of contents have other names in the target. -/
def tocRenaming : Renaming :=
  ⟨"toc", [("minLevel", "start"), ("maxLevel", "depth")], false⟩

/-! ### Extensions -/

/-- A set of converters that is enabled as a whole. -/
inductive Extension where
  | taskList
  | code
  | panel
  | toc
deriving DecidableEq, Repr

namespace Extension

/-- The extension with the given identifier. -/
def ofId? (id : String) : Option Extension :=
  if id = "macro-tasklist" then some taskList
  else if id = "macro-code" then some code
  else if id = "macro-panel" then some panel
  else if id = "macro-toc" then some toc
  else none

/-- The converters of an extension, by the identifiers of the macros they convert. -/
def converters (marker : String) : Extension → List (String × Converter)
  | taskList => [("tasklist", .taskList marker)]
  | code => [("code", .code), ("noformat", .code)]
  | panel => [("info", .panel), ("note", .panel), ("tip", .panel), ("warning", .panel)]
  | toc => [("toc", .rename tocRenaming)]

end Extension

/-- The registry of the extensions with the given identifiers. Unknown identifiers enable
nothing. -/
def Registry.ofExtensions (ids : List String) (marker : String) : Registry :=
  .ofList (ids.flatMap fun id => ((Extension.ofId? id).map (·.converters marker)).getD [])

end SpaceMigration
