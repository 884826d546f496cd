import SpaceMigration.Document
import SpaceMigration.Proofs.JsonRecords

/-!
# Content is read as it was written

Source documents, target documents and the macros of both are read from their compact text as they
were written, whatever strings they hold. Two readers do more than take the parts of a value: an
occurrence is built anew and refuses an empty identifier, which no occurrence has; and a metadata
record drops its repeated fields, of which it has none.

A metadata record is written with lower-case forms that its reader does not know. What is proved of
it is therefore more than that reading undoes writing: whatever stands in the place of the forms,
the same record is read (`MigrationMetadata.ofJson?_withForms`).

## Main definitions

* `MigrationMetadata.withForms` — the layout of a metadata record with given lower-case forms

## Main results

* `MigrationMetadata.ofJson?_withForms` — a metadata record is read without its forms
* `Occurrence.ofJson?_toJson` — an occurrence is read as it is laid out
* `content_reads_back` — every kind of content, from its compact text
-/

namespace SpaceMigration

open Json

/-! ### Macros -/

theorem Parameters.ofJson?_toJson (parameters : Parameters) :
    Parameters.ofJson? (Parameters.toJson parameters) = some parameters :=
  Value.asMap_record Value.asText_text parameters

theorem Parameters.toJson_plain (parameters : Parameters) : (Parameters.toJson parameters).Plain :=
  .entries .text parameters.entries

theorem Occurrence.ofParts_self (o : Occurrence) :
    Occurrence.ofParts o.id o.parameters o.body = .ok o := by
  rw [ofParts, dif_neg o.id_ne_empty]

/-- **An occurrence is read as it is laid out**: the check of its identifier, which is made again,
passes again. -/
theorem Occurrence.ofJson?_toJson (o : Occurrence) : ofJson? o.toJson = some o := by
  rw [ofJson?, toJson, Value.fields?_record]
  · simp [Fields.required, Fields.withDefault, Fields.get?, StringMap.lookup,
      Parameters.ofJson?_toJson, ofParts_self, Except.toOption]
  · rfl
  · decide

theorem Occurrence.toJson_plain (o : Occurrence) : o.toJson.Plain :=
  .record (by simp [Value.Plain.text, Parameters.toJson_plain])

theorem Replacement.ofJson?_toJson (r : Replacement) : ofJson? r.toJson = some r := by
  rw [ofJson?, toJson, Value.fields?_record]
  · simp [Fields.required, Fields.get?, StringMap.lookup, Parameters.ofJson?_toJson]
  · rfl
  · decide

theorem Replacement.toJson_plain (r : Replacement) : r.toJson.Plain :=
  .record (by simp [Value.Plain.text, Parameters.toJson_plain])

/-! ### Metadata -/

namespace MigrationMetadata

/-- The layout of a record with the given lower-case forms of its key, its space key and its
fields. -/
def withForms (m : MigrationMetadata) (key spaceKey fields : Value) : Value :=
  .record [
    ("key", .text m.key), ("lower_key", key),
    ("space_key", .text m.spaceKey), ("lower_space_key", spaceKey),
    ("title", .text m.title), ("description", .text m.description),
    ("fields", .texts m.fields), ("lower_fields", fields)]

/-- **A record is read without its lower-case forms**: whatever stands in their place, the forms of
the record that is read are those of its own parts. -/
theorem ofJson?_withForms (m : MigrationMetadata) (key spaceKey fields : Value) :
    ofJson? (m.withForms key spaceKey fields) = some m := by
  have hlabels : (Value.texts m.fields).asList (·.asText) = some m.fields :=
    Value.asList_map Value.asText_text m.fields
  rw [ofJson?, MetadataParts.ofJson?, withForms, Value.fields?_record_known]
  · simp [Fields.required, Fields.withDefault, Fields.get?, StringMap.lookup, hlabels,
      MetadataParts.toMetadata, ofParts_self]
  · simp

theorem ofJson?_toJson (m : MigrationMetadata) : ofJson? m.toJson = some m :=
  m.ofJson?_withForms _ _ _

theorem withForms_plain (m : MigrationMetadata) {key spaceKey fields : Value} (hkey : key.Plain)
    (hspaceKey : spaceKey.Plain) (hfields : fields.Plain) :
    (m.withForms key spaceKey fields).Plain :=
  .record (by
    simp [Value.Plain.text, Value.texts, Value.Plain.map Value.Plain.text, hkey, hspaceKey, hfields])

theorem toJson_plain (m : MigrationMetadata) : m.toJson.Plain :=
  m.withForms_plain (.text _) (.text _) (.map .text _)

end MigrationMetadata

/-! ### Documents -/

theorem ContentBlock.ofJson?_toJson (block : ContentBlock) : ofJson? block.toJson = some block := by
  cases block with
  | text content => rfl
  | call o => exact congrArg (Option.map call) o.ofJson?_toJson

theorem ContentBlock.toJson_plain (block : ContentBlock) : block.toJson.Plain := by
  cases block with
  | text content => exact .record (by simp [Value.Plain.text])
  | call o => exact .record (by simp [o.toJson_plain])

theorem SourceDocument.ofJson?_toJson (d : SourceDocument) : ofJson? d.toJson = some d := by
  have hlabels : (Value.texts d.labels).asList (·.asText) = some d.labels :=
    Value.asList_map Value.asText_text d.labels
  rw [ofJson?, toJson, Value.fields?_record]
  · simp [Fields.required, Fields.withDefault, Fields.get?, StringMap.lookup, hlabels,
      Value.asList_map ContentBlock.ofJson?_toJson]
  · rfl
  · decide

theorem SourceDocument.toJson_plain (d : SourceDocument) : d.toJson.Plain :=
  .record (by simp [Value.Plain.text, Value.texts, Value.Plain.map Value.Plain.text,
    Value.Plain.map ContentBlock.toJson_plain])

theorem TargetDocument.ofJson?_toJson (d : TargetDocument) : ofJson? d.toJson = some d := by
  have hmetadata : ((d.metadata.map MigrationMetadata.toJson).getD .null).asOption
      MigrationMetadata.ofJson? = some d.metadata :=
    Value.asOption_getD MigrationMetadata.ofJson?_toJson (fun _ h => nomatch h) d.metadata
  have hreference : EntityReference.ofJson? d.reference.toJson = some d.reference := rfl
  rw [ofJson?, toJson, Value.fields?_record]
  · simp [Fields.required, Fields.optional, Fields.get?, StringMap.lookup, hmetadata, hreference]
  · rfl
  · decide

theorem TargetDocument.toJson_plain (d : TargetDocument) : d.toJson.Plain :=
  .record (by simp [EntityReference.toJson, Value.Plain.text,
    Value.Plain.getD MigrationMetadata.toJson_plain])

/-- **Content is read as it was written.** Source documents, target documents, the macros of both
and metadata records are each read from their compact text; and a metadata record is read as the
same record when the lower-case forms it was written with are replaced by other texts. -/
theorem content_reads_back (source : SourceDocument) (target : TargetDocument)
    (occurrence : Occurrence) (replacement : Replacement) (metadata : MigrationMetadata)
    (key spaceKey : String) (fields : List String) :
    let altered := metadata.withForms (.text key) (.text spaceKey) (.texts fields)
    (Value.parse? source.toJson.compact).bind SourceDocument.ofJson? = some source ∧
    (Value.parse? target.toJson.compact).bind TargetDocument.ofJson? = some target ∧
    (Value.parse? occurrence.toJson.compact).bind Occurrence.ofJson? = some occurrence ∧
    (Value.parse? replacement.toJson.compact).bind Replacement.ofJson? = some replacement ∧
    (Value.parse? metadata.toJson.compact).bind MigrationMetadata.ofJson? = some metadata ∧
    (Value.parse? altered.compact).bind MigrationMetadata.ofJson? = some metadata := by
  intro altered
  have haltered : altered.Plain :=
    metadata.withForms_plain (.text key) (.text spaceKey) (.map .text fields)
  refine ⟨?source, ?target, ?occurrence, ?replacement, ?metadata, ?altered⟩
  case source => rw [source.toJson_plain.read_compact, source.ofJson?_toJson]
  case target => rw [target.toJson_plain.read_compact, target.ofJson?_toJson]
  case occurrence => rw [occurrence.toJson_plain.read_compact, occurrence.ofJson?_toJson]
  case replacement => rw [replacement.toJson_plain.read_compact, replacement.ofJson?_toJson]
  case metadata =>
    rw [metadata.toJson_plain.read_compact, metadata.ofJson?_toJson]
  case altered => rw [haltered.read_compact, metadata.ofJson?_withForms]

end SpaceMigration
