import SpaceMigration.Proofs.JsonRecords
import SpaceMigration.Store.Image

/-!
# A store is read as it was kept

The image of a store holds the whole store: reading it gives the store back, whatever texts its rows
hold. A store that is closed and opened again is the same store.

## Main results

* `Store.ofImage_image`
-/

namespace SpaceMigration

open Json

/-! ### Rows -/

theorem AuditRow.ofJson?_toJson (row : AuditRow) : AuditRow.ofJson? row.toJson = some row := by
  rw [AuditRow.ofJson?, AuditRow.toJson, Value.fields?_record]
  · simp [Fields.required, Fields.optional, Fields.get?, StringMap.lookup, Value.asBool]
  · rfl
  · decide

theorem DocumentRow.ofJson?_toJson (row : DocumentRow) :
    DocumentRow.ofJson? row.toJson = some row := by
  rw [DocumentRow.ofJson?, DocumentRow.toJson, Value.fields?_record]
  · simp [Fields.required, Fields.get?, StringMap.lookup]
  · rfl
  · decide

theorem MetadataRow.ofJson?_toJson (row : MetadataRow) :
    MetadataRow.ofJson? row.toJson = some row := by
  rw [MetadataRow.ofJson?, MetadataRow.toJson, Value.fields?_record]
  · simp [Fields.required, Fields.get?, StringMap.lookup]
  · rfl
  · decide

/-! ### Tables -/

/-- A table is read as it is laid out when its rows are. -/
theorem asMap_tableJson {α : Type} {toJson : α → Value} {read : Value → Option α}
    (h : ∀ a, read (toJson a) = some a) (table : StringMap α) :
    (tableJson toJson table).asMap read = some table :=
  Value.asMap_record h table

theorem Store.ofJson?_toJson (store : Store) : Store.ofJson? store.toJson = some store := by
  rw [Store.ofJson?, Store.toJson, Value.fields?_record]
  · simp [Fields.required, Fields.get?, StringMap.lookup, asMap_tableJson AuditRow.ofJson?_toJson,
      asMap_tableJson DocumentRow.ofJson?_toJson, asMap_tableJson MetadataRow.ofJson?_toJson]
  · rfl
  · decide

/-! ### Images -/

theorem tableJson_plain {α : Type} {toJson : α → Value} (h : ∀ a, (toJson a).Plain)
    (table : StringMap α) : (tableJson toJson table).Plain :=
  .entries h table.entries

theorem AuditRow.toJson_plain (row : AuditRow) : row.toJson.Plain :=
  .record (by simp [Value.Plain.bool, Value.Plain.text, Value.Plain.text?])

theorem DocumentRow.toJson_plain (row : DocumentRow) : row.toJson.Plain :=
  .record (by simp [Value.Plain.text])

theorem MetadataRow.toJson_plain (row : MetadataRow) : row.toJson.Plain :=
  .record (by simp [Value.Plain.text])

theorem Store.toJson_plain (store : Store) : store.toJson.Plain :=
  .record (by simp [tableJson_plain AuditRow.toJson_plain, tableJson_plain DocumentRow.toJson_plain,
    tableJson_plain MetadataRow.toJson_plain])

theorem fromUTF8?_toByteArray (s : String) : String.fromUTF8? s.toByteArray = some s :=
  dif_pos s.isValidUTF8

/-- **The image of a store is read as the store.** -/
theorem Store.ofImage_image (store : Store) : Store.ofImage store.image = .ok store := by
  have hsize : store.image.size ≠ 0 := by
    rw [image, ByteArray.size_append]
    exact Nat.ne_of_gt (Nat.lt_add_right _ (by decide))
  have hmark : store.image.extract 0 imageMark.size = imageMark :=
    ByteArray.extract_append_eq_left rfl
  have htext : store.image.extract imageMark.size store.image.size = store.toJson.compact.toUTF8 :=
    ByteArray.extract_append_eq_right rfl ByteArray.size_append
  rw [ofImage, if_neg hsize]
  simp [hmark, htext, fromUTF8?_toByteArray, store.toJson_plain.parse?_compact, store.ofJson?_toJson]

end SpaceMigration
