import SpaceMigration.Macro.Occurrence
import SpaceMigration.Metadata
import SpaceMigration.Reference

/-!
# Documents of the source and of the target

A source document is a list of content blocks with the labels and the excerpt that become its
metadata. A target document is the converted content under its reference.
-/

namespace SpaceMigration

/-- A piece of the content of a source document. -/
inductive ContentBlock where
  /-- Text that is copied as it is. -/
  | text (content : String)
  /-- An embedded macro. -/
  | call (occurrence : Occurrence)

/-- A document of the source. Its identifier is meant to be unique within its space. -/
structure SourceDocument where
  id : String
  title : String
  labels : List String
  excerpt : String
  content : List ContentBlock

/-- The metadata of a document in its space, if the document has labels. -/
def SourceDocument.metadata? (d : SourceDocument) (spaceKey : String) : Option MigrationMetadata :=
  if d.labels.isEmpty then none
  else some (.ofParts d.id spaceKey d.title d.excerpt d.labels)

/-- A document of the target. -/
structure TargetDocument where
  reference : EntityReference
  title : String
  content : String
  metadata : Option MigrationMetadata
deriving DecidableEq

/-! ### Layout -/

/-- A reference is read from its path. -/
def EntityReference.ofJson? (v : Json.Value) : Option EntityReference :=
  v.asText.map EntityReference.mk

/-- A block is written as an object with the name of its kind. -/
def ContentBlock.toJson : ContentBlock → Json.Value
  | text content => .record [("text", .text content)]
  | call occurrence => .record [("macro", occurrence.toJson)]

/-- A block is read from an object with a single entry. -/
def ContentBlock.ofJson? (v : Json.Value) : Option ContentBlock := do
  let (kind, argument) ← v.asCase
  if kind = "text" then argument.asText.map text
  else if kind = "macro" then (Occurrence.ofJson? argument).map call
  else none

/-- A source document is written with all its parts. -/
def SourceDocument.toJson (d : SourceDocument) : Json.Value :=
  .record [("id", .text d.id), ("title", .text d.title), ("labels", .texts d.labels),
    ("excerpt", .text d.excerpt), ("content", .array (d.content.map ContentBlock.toJson))]

/-- Labels, excerpt and content of a source document may be left out. -/
def SourceDocument.ofJson? (v : Json.Value) : Option SourceDocument := do
  let fields ← v.fields? ["id", "title", "labels", "excerpt", "content"]
  let id ← fields.required "id" (·.asText)
  let title ← fields.required "title" (·.asText)
  let labels ← fields.withDefault "labels" [] (·.asList (·.asText))
  let excerpt ← fields.withDefault "excerpt" "" (·.asText)
  let content ← fields.withDefault "content" [] (·.asList ContentBlock.ofJson?)
  return ⟨id, title, labels, excerpt, content⟩

/-- A target document is written with all its parts. -/
def TargetDocument.toJson (d : TargetDocument) : Json.Value :=
  .record [("reference", d.reference.toJson), ("title", .text d.title),
    ("content", .text d.content),
    ("metadata", (d.metadata.map MigrationMetadata.toJson).getD .null)]

/-- The metadata of a target document is optional. -/
def TargetDocument.ofJson? (v : Json.Value) : Option TargetDocument := do
  let fields ← v.fields? ["reference", "title", "content", "metadata"]
  let reference ← fields.required "reference" EntityReference.ofJson?
  let title ← fields.required "title" (·.asText)
  let content ← fields.required "content" (·.asText)
  let metadata ← fields.optional "metadata" MigrationMetadata.ofJson?
  return ⟨reference, title, content, metadata⟩

end SpaceMigration
