import SpaceMigration.Document
import SpaceMigration.File
import SpaceMigration.Json.Parser

/-!
# Exports of the source

An export lists spaces, and each space its documents. It is read from JSON and answers what a
migration asks of its source: the keys and names of the spaces, the documents of a space, and a
document of a space.

When an export lists a space key twice, its last entry stands for the space. When a space lists a
document identifier twice, the identifier is listed twice but loads the first of the documents.
-/

namespace SpaceMigration

/-- A space of an export. -/
structure ExportSpace where
  key : String
  name : String
  documents : List SourceDocument

/-- The spaces of an export by their keys. -/
abbrev Export := StringMap ExportSpace

namespace Export

/-- The spaces listed in an export, by their keys. -/
def ofSpaces (spaces : List ExportSpace) : Export :=
  .ofList (spaces.map fun space => (space.key, space))

/-- The documents of a space may be left out. -/
def readSpace? (v : Json.Value) : Option ExportSpace := do
  let fields ← v.fields? ["key", "name", "documents"]
  let key ← fields.required "key" (·.asText)
  let name ← fields.required "name" (·.asText)
  let documents ← fields.withDefault "documents" [] (·.asList SourceDocument.ofJson?)
  return ⟨key, name, documents⟩

/-- The spaces listed in the JSON value of an export. -/
def readSpaces? (v : Json.Value) : Option (List ExportSpace) := do
  let fields ← v.fields? ["spaces"]
  fields.required "spaces" (·.asList readSpace?)

/-- The spaces listed in the text of an export, in the order of the text. -/
def spacesOf? (text : String) : Option (List ExportSpace) :=
  (Json.Value.parse? text).bind readSpaces?

/-- Reads the text of an export. -/
def parse (text : String) : Except MigrationError Export :=
  match spacesOf? text with
  | some spaces => .ok (ofSpaces spaces)
  | none => .error malformedJson

/-- Reads an export file. -/
def ofFile : FileContent → Except MigrationError Export
  | .missing => .error ⟨.io, "there is no such file"⟩
  | .binary => .error ⟨.io, "the file is not text in UTF-8"⟩
  | .text content => parse content

/-- The keys of the spaces, in order. -/
def spaceKeys (e : Export) : List String :=
  e.keys

/-- The name of a space. -/
def spaceName? (e : Export) (spaceKey : String) : Option String :=
  (e.get? spaceKey).map (·.name)

/-- The identifiers of the documents of a space, in order. -/
def list (e : Export) (spaceKey : String) : Except MigrationError (List String) :=
  match e.get? spaceKey with
  | some space => .ok (space.documents.map (·.id))
  | none => .error ⟨.notFound, "space " ++ spaceKey⟩

/-- A document of a space. -/
def load (e : Export) (spaceKey documentId : String) : Except MigrationError SourceDocument :=
  match e.get? spaceKey with
  | none => .error ⟨.notFound, "space " ++ spaceKey⟩
  | some space =>
    match space.documents.find? fun d => d.id == documentId with
    | some document => .ok document
    | none => .error ⟨.notFound, "document " ++ documentId ++ " in space " ++ spaceKey⟩

end Export

end SpaceMigration
