import SpaceMigration.Distinct
import SpaceMigration.Error
import SpaceMigration.Json.Record
import SpaceMigration.Text.Lowercase

/-!
# Metadata of migrated content

A metadata record tags a migrated document with its source key and space, a title, a description
and a set of labels, the fields. Keys and fields are looked up ignoring case, so the record keeps
their lower-case forms beside them. Every change of a key or of the fields changes the forms with
them, by writing them again or, when a label is added, by writing one more; a record is read from
its parts alone (`MetadataParts`), and forms that were stored with them are not looked at.

That the forms are those of their sources and that the fields never repeat is part of the type.
-/

namespace SpaceMigration

/-- The tag of a migrated document. -/
structure MigrationMetadata where
  key : String
  /-- The key in lower case. -/
  lowerKey : String := Text.lowercase key
  spaceKey : String
  /-- The space key in lower case. -/
  lowerSpaceKey : String := Text.lowercase spaceKey
  title : String
  description : String
  fields : List String
  /-- The fields in lower case, in the same order. -/
  lowerFields : List String := fields.map Text.lowercase
  forms : lowerKey = Text.lowercase key ∧ lowerSpaceKey = Text.lowercase spaceKey ∧
    lowerFields = fields.map Text.lowercase := by exact ⟨rfl, rfl, rfl⟩
  distinct : fields.Nodup
deriving DecidableEq

/-- What a metadata record is made of: everything in it that is not derived. The labels may
repeat. -/
structure MetadataParts where
  key : String
  spaceKey : String
  title : String
  description : String
  labels : List String

namespace MigrationMetadata

theorem lowerKey_eq (m : MigrationMetadata) : m.lowerKey = Text.lowercase m.key :=
  m.forms.1

theorem lowerSpaceKey_eq (m : MigrationMetadata) : m.lowerSpaceKey = Text.lowercase m.spaceKey :=
  m.forms.2.1

theorem lowerFields_eq (m : MigrationMetadata) : m.lowerFields = m.fields.map Text.lowercase :=
  m.forms.2.2

/-- Records of the same parts have the same lower-case forms, and so are equal. -/
theorem ext_parts {a b : MigrationMetadata} (key : a.key = b.key)
    (spaceKey : a.spaceKey = b.spaceKey) (title : a.title = b.title)
    (description : a.description = b.description) (fields : a.fields = b.fields) : a = b := by
  have lowerKey : a.lowerKey = b.lowerKey := by rw [a.lowerKey_eq, b.lowerKey_eq, key]
  have lowerSpaceKey : a.lowerSpaceKey = b.lowerSpaceKey := by
    rw [a.lowerSpaceKey_eq, b.lowerSpaceKey_eq, spaceKey]
  have lowerFields : a.lowerFields = b.lowerFields := by
    rw [a.lowerFields_eq, b.lowerFields_eq, fields]
  cases a
  cases b
  simp only [mk.injEq]
  exact ⟨key, lowerKey, spaceKey, lowerSpaceKey, title, description, fields, lowerFields⟩

/-- The first occurrences in a list of labels. -/
def firstOccurrences (labels : List String) : List String :=
  distinctBy id labels

theorem firstOccurrences_eq_eraseDups (labels : List String) :
    firstOccurrences labels = labels.eraseDups :=
  distinctBy_id_eq_eraseDups labels

theorem nodup_firstOccurrences (labels : List String) : (firstOccurrences labels).Nodup := by
  simpa [firstOccurrences] using nodup_distinctBy id labels

theorem nodup_append_new {fields : List String} (h : fields.Nodup) {label : String}
    (hnew : label ∉ fields) : (fields ++ [label]).Nodup := by
  refine List.nodup_append.2 ⟨h, by simp, ?_⟩
  intro field hfield other hother heq
  obtain rfl := List.mem_singleton.1 hother
  exact hnew (heq ▸ hfield)

/-! ### Construction and changes -/

/-- A record without description and fields. -/
def new (key spaceKey title : String) : MigrationMetadata where
  key := key
  lowerKey := Text.lowercase key
  spaceKey := spaceKey
  lowerSpaceKey := Text.lowercase spaceKey
  title := title
  description := ""
  fields := []
  lowerFields := []
  distinct := .nil

/-- The record with another key. -/
def setKey (m : MigrationMetadata) (key : String) : MigrationMetadata :=
  { m with key, lowerKey := Text.lowercase key, forms := ⟨rfl, m.forms.2⟩ }

/-- The record with another space key. -/
def setSpaceKey (m : MigrationMetadata) (spaceKey : String) : MigrationMetadata :=
  { m with
    spaceKey
    lowerSpaceKey := Text.lowercase spaceKey
    forms := ⟨m.lowerKey_eq, rfl, m.lowerFields_eq⟩ }

/-- The record with another title. -/
def setTitle (m : MigrationMetadata) (title : String) : MigrationMetadata :=
  { m with title }

/-- The record with another description. -/
def setDescription (m : MigrationMetadata) (description : String) : MigrationMetadata :=
  { m with description }

/-- The record with other fields. A repeated label keeps its first position. -/
def setFields (m : MigrationMetadata) (labels : List String) : MigrationMetadata :=
  { m with
    fields := firstOccurrences labels
    lowerFields := (firstOccurrences labels).map Text.lowercase
    forms := ⟨m.lowerKey_eq, m.lowerSpaceKey_eq, rfl⟩
    distinct := nodup_firstOccurrences labels }

/-- The record with one more field, unless it has it already. -/
def addField (m : MigrationMetadata) (label : String) : MigrationMetadata :=
  if h : label ∈ m.fields then m
  else { m with
    fields := m.fields ++ [label]
    lowerFields := m.lowerFields ++ [Text.lowercase label]
    forms := by
      refine ⟨m.lowerKey_eq, m.lowerSpaceKey_eq, ?_⟩
      rw [m.lowerFields_eq, List.map_append, List.map_singleton]
    distinct := nodup_append_new m.distinct h }

/-- The record with all its parts given. -/
def ofParts (key spaceKey title description : String) (labels : List String) :
    MigrationMetadata :=
  ((new key spaceKey title).setDescription description).setFields labels

/-- A record is what its parts make: its fields never repeat. -/
theorem ofParts_self (m : MigrationMetadata) :
    ofParts m.key m.spaceKey m.title m.description m.fields = m := by
  have hfields : firstOccurrences m.fields = m.fields := by
    rw [firstOccurrences_eq_eraseDups, eraseDups_of_nodup m.distinct]
  exact ext_parts rfl rfl rfl rfl hfields

/-! ### Lookup -/

/-- Whether the record has the field, ignoring case. -/
def hasField (m : MigrationMetadata) (label : String) : Bool :=
  m.lowerFields.contains (Text.lowercase label)

/-! ### Layout -/

/-- How a part of a record is stored. -/
inductive FieldKind where
  /-- Short text on a single line. -/
  | shortText
  /-- Long plain text without markup. -/
  | longText
  /-- An ordered set of short texts. -/
  | tokenSet
deriving DecidableEq, Repr

/-- The name of a storage kind. -/
def FieldKind.name : FieldKind → String
  | shortText => "ShortText"
  | longText => "LongText"
  | tokenSet => "TokenSet"

/-- The parts of a stored record in order. -/
def schema : List (String × FieldKind) := [
  ("key", .shortText), ("lower_key", .shortText), ("space_key", .shortText),
  ("lower_space_key", .shortText), ("title", .shortText), ("description", .longText),
  ("fields", .tokenSet), ("lower_fields", .tokenSet)]

/-- A record is written with its lower-case forms. -/
def toJson (m : MigrationMetadata) : Json.Value :=
  .record [
    ("key", .text m.key), ("lower_key", .text m.lowerKey),
    ("space_key", .text m.spaceKey), ("lower_space_key", .text m.lowerSpaceKey),
    ("title", .text m.title), ("description", .text m.description),
    ("fields", .texts m.fields), ("lower_fields", .texts m.lowerFields)]

end MigrationMetadata

/-- Title, description and fields may be left out. Lower-case forms are unknown fields to the
reader. -/
def MetadataParts.ofJson? (v : Json.Value) : Option MetadataParts := do
  let fields ← v.fields? ["key", "space_key", "title", "description", "fields"]
  let key ← fields.required "key" (·.asText)
  let spaceKey ← fields.required "space_key" (·.asText)
  let title ← fields.withDefault "title" "" (·.asText)
  let description ← fields.withDefault "description" "" (·.asText)
  let labels ← fields.withDefault "fields" [] (·.asList (·.asText))
  return ⟨key, spaceKey, title, description, labels⟩

/-- The record that parts make. -/
def MetadataParts.toMetadata (parts : MetadataParts) : MigrationMetadata :=
  .ofParts parts.key parts.spaceKey parts.title parts.description parts.labels

/-- A record is read from its parts, and its lower-case forms are made again. -/
def MigrationMetadata.ofJson? (v : Json.Value) : Option MigrationMetadata :=
  (MetadataParts.ofJson? v).map MetadataParts.toMetadata

end SpaceMigration
