import Mathlib.Data.List.Induction
import SpaceMigration.Store.Documents

/-!
# The history of a metadata record

A metadata record keeps lower-case forms beside its keys and fields, and its operations maintain
them in two ways: most write a form again with its source, and adding a label appends to the fields
and to their forms. Records come from JSON text and from rows of a store as well, where forms are
stored that may have gone stale.

A plain account of the same history keeps what the record was given and derives nothing: labels
pile up in it until the fields are set again (`MetadataOperation.give`). The record is at every
moment the one that would be made from scratch of that account
(`MetadataOperation.perform_toMetadata`), so its forms are those of its sources and its fields are
the first occurrences of the labels.

## Main definitions

* `MetadataOperation` — everything that is done to a record, or puts another record in its place
* `MetadataOperation.perform`, `MetadataOperation.give` — the record and the account after it

## Main results

* `MetadataOperation.performAll_toMetadata` — the record is made of what it was given
* `MetadataOperation.exists_last_set` — the labels of the account
* `MigrationMetadata.keeps_forms` — what a record is after any operations
-/

namespace SpaceMigration

/-! ### Operations -/

/-- The parts in a metadata row, if its fields can be read. -/
def MetadataRow.parts? (row : MetadataRow) : Option MetadataParts :=
  (readTexts row.fields).toOption.map fun labels =>
    ⟨row.key, row.spaceKey, row.title, row.description, labels⟩

theorem MetadataRow.toOption_decode (row : MetadataRow) :
    row.decode.toOption = row.parts?.map MetadataParts.toMetadata := by
  rw [decode, parts?]
  cases readTexts row.fields <;> rfl

/-- An operation on a metadata record. -/
inductive MetadataOperation where
  /-- A new record is put in its place. -/
  | new (key spaceKey title : String)
  | setKey (key : String)
  | setSpaceKey (spaceKey : String)
  | setTitle (title : String)
  | setDescription (description : String)
  | setFields (labels : List String)
  | addField (label : String)
  /-- The record of a JSON text is put in its place. -/
  | read (text : String)
  /-- The record of a row of a store is put in its place. -/
  | load (row : MetadataRow)

namespace MetadataOperation

/-- The record after an operation. A text or a row that cannot be read leaves it as it is. -/
def perform (m : MigrationMetadata) : MetadataOperation → MigrationMetadata
  | new key spaceKey title => .new key spaceKey title
  | setKey key => m.setKey key
  | setSpaceKey spaceKey => m.setSpaceKey spaceKey
  | setTitle title => m.setTitle title
  | setDescription description => m.setDescription description
  | setFields labels => m.setFields labels
  | addField label => m.addField label
  | read text => ((Json.Value.parse? text).bind MigrationMetadata.ofJson?).getD m
  | load row => row.decode.toOption.getD m

/-- The account of what a record was given, after an operation. -/
def give (given : MetadataParts) : MetadataOperation → MetadataParts
  | new key spaceKey title => ⟨key, spaceKey, title, "", []⟩
  | setKey key => { given with key }
  | setSpaceKey spaceKey => { given with spaceKey }
  | setTitle title => { given with title }
  | setDescription description => { given with description }
  | setFields labels => { given with labels }
  | addField label => { given with labels := given.labels ++ [label] }
  | read text => ((Json.Value.parse? text).bind MetadataParts.ofJson?).getD given
  | load row => row.parts?.getD given

/-- The labels that an operation sets the fields to. -/
def labels? : MetadataOperation → Option (List String)
  | new _ _ _ => some []
  | setFields labels => some labels
  | read text => ((Json.Value.parse? text).bind MetadataParts.ofJson?).map (·.labels)
  | load row => row.parts?.map (·.labels)
  | setKey _ | setSpaceKey _ | setTitle _ | setDescription _ | addField _ => none

/-- The label that an operation adds to the fields. -/
def added? : MetadataOperation → Option String
  | addField label => some label
  | new _ _ _ | setKey _ | setSpaceKey _ | setTitle _ | setDescription _ | setFields _ | read _
  | load _ => none

/-! ### One operation -/

/-- To add a field is to count its label among the given ones. -/
theorem addField_toMetadata (given : MetadataParts) (label : String) :
    given.toMetadata.addField label = (give given (addField label)).toMetadata := by
  have hfields : (give given (addField label)).toMetadata.fields =
      if label ∈ given.toMetadata.fields then given.toMetadata.fields
      else given.toMetadata.fields ++ [label] := by
    change distinctBy id (given.labels ++ [label]) = _
    rw [distinctBy_append_singleton, appendNew, List.map_id]
    rfl
  rw [MigrationMetadata.addField]
  split
  · next hold =>
    exact MigrationMetadata.ext_parts rfl rfl rfl rfl (hfields.trans (if_pos hold)).symm
  · next hnew =>
    exact MigrationMetadata.ext_parts rfl rfl rfl rfl (hfields.trans (if_neg hnew)).symm

/-- **One operation keeps the record in step** with the account of what it was given. -/
theorem perform_toMetadata (given : MetadataParts) (operation : MetadataOperation) :
    operation.perform given.toMetadata = (operation.give given).toMetadata := by
  cases operation with
  | new key spaceKey title => rfl
  | setKey key => rfl
  | setSpaceKey spaceKey => rfl
  | setTitle title => rfl
  | setDescription description => rfl
  | setFields labels => rfl
  | addField label => exact addField_toMetadata given label
  | read text =>
    rw [perform, give, ← Option.getD_map MetadataParts.toMetadata, Option.map_bind]
    rfl
  | load row => rw [perform, give, MetadataRow.toOption_decode, Option.getD_map]

/-- The labels of the account are set anew or grow by what is added. -/
theorem labels_give (given : MetadataParts) (operation : MetadataOperation) :
    (operation.give given).labels =
      operation.labels?.getD (given.labels ++ operation.added?.toList) := by
  cases operation with
  | read text =>
    rw [give, labels?]
    cases (Json.Value.parse? text).bind MetadataParts.ofJson? <;> simp [added?]
  | load row =>
    rw [give, labels?]
    cases row.parts? <;> simp [added?]
  | _ => simp [give, labels?, added?]

/-! ### All operations -/

/-- The record after operations in turn. -/
def performAll (operations : List MetadataOperation) (m : MigrationMetadata) : MigrationMetadata :=
  operations.foldl perform m

/-- The account after operations in turn. -/
def giveAll (operations : List MetadataOperation) (given : MetadataParts) : MetadataParts :=
  operations.foldl give given

/-- **The record is made of what it was given**, whatever the operations. -/
theorem performAll_toMetadata (operations : List MetadataOperation) (given : MetadataParts) :
    performAll operations given.toMetadata = (giveAll operations given).toMetadata := by
  induction operations generalizing given with
  | nil => rfl
  | cons operation rest ih =>
    rw [performAll, List.foldl_cons, perform_toMetadata]
    exact ih (operation.give given)

/-- The labels of the account are those that the fields were set to last, and behind them those
that were added since. -/
theorem exists_last_set (key spaceKey title : String) (operations : List MetadataOperation) :
    ∃ before setting after labels,
      new key spaceKey title :: operations = before ++ setting :: after ∧
      setting.labels? = some labels ∧ (∀ operation ∈ after, operation.labels? = none) ∧
      (giveAll operations ⟨key, spaceKey, title, "", []⟩).labels =
        labels ++ after.filterMap added? := by
  induction operations using List.reverseRecOn with
  | nil => exact ⟨[], new key spaceKey title, [], [], rfl, rfl, by simp, rfl⟩
  | append_singleton operations last ih =>
    obtain ⟨before, setting, after, labels, hsplit, hset, hafter, hlabels⟩ := ih
    have hgive := labels_give (giveAll operations ⟨key, spaceKey, title, "", []⟩) last
    rw [giveAll, List.foldl_append, List.foldl_cons, List.foldl_nil, ← giveAll, hgive]
    cases hlast : last.labels? with
    | some labels =>
      exact ⟨new key spaceKey title :: operations, last, [], labels, rfl, hlast, by simp, by simp⟩
    | none =>
      refine ⟨before, setting, after ++ [last], labels, ?_, hset, ?_, ?_⟩
      · rw [← List.cons_append, hsplit, List.append_assoc, List.cons_append]
      · intro operation hmem
        rcases List.mem_append.1 hmem with hmem | hmem
        · exact hafter operation hmem
        · exact List.mem_singleton.1 hmem ▸ hlast
      · rw [Option.getD_none, hlabels, List.filterMap_append, List.append_assoc]
        cases hadded : last.added? <;> simp [hadded]

end MetadataOperation

namespace MigrationMetadata

/-- A field is there, ignoring case, if one of the fields has its lower-case form. -/
theorem hasField_iff (m : MigrationMetadata) (label : String) :
    m.hasField label = true ↔
      ∃ field ∈ m.fields, Text.lowercase field = Text.lowercase label := by
  rw [hasField, m.lowerFields_eq, List.contains_iff_mem, List.mem_map]

/-- **A metadata record keeps its forms.** After any operations the forms of the keys and of the
fields are those of their sources; the fields do not repeat, and are the first occurrences among
the labels that they were set to last and those that were added since; and a field is found,
whatever its case, exactly if one of the fields has the same form. The keys themselves, the title
and the description are those that were given last. -/
theorem keeps_forms (key spaceKey title : String) (operations : List MetadataOperation) :
    let m := MetadataOperation.performAll operations (new key spaceKey title)
    let given := MetadataOperation.giveAll operations ⟨key, spaceKey, title, "", []⟩
    (m.key = given.key ∧ m.lowerKey = Text.lowercase m.key) ∧
    (m.spaceKey = given.spaceKey ∧ m.lowerSpaceKey = Text.lowercase m.spaceKey) ∧
    (m.title = given.title ∧ m.description = given.description) ∧
    m.lowerFields = m.fields.map Text.lowercase ∧
    m.fields.Nodup ∧
    (∃ before setting after labels,
      .new key spaceKey title :: operations = before ++ setting :: after ∧
      MetadataOperation.labels? setting = some labels ∧
      (∀ operation ∈ after, operation.labels? = none) ∧
      m.fields = (labels ++ after.filterMap (·.added?)).eraseDups) ∧
    ∀ label, m.hasField label = true ↔
      ∃ field ∈ m.fields, Text.lowercase field = Text.lowercase label := by
  intro m given
  have hm : m = given.toMetadata :=
    MetadataOperation.performAll_toMetadata operations ⟨key, spaceKey, title, "", []⟩
  have hfields : m.fields = given.labels.eraseDups := by
    rw [hm]
    exact firstOccurrences_eq_eraseDups given.labels
  obtain ⟨before, setting, after, labels, hsplit, hset, hafter, hlabels⟩ :=
    MetadataOperation.exists_last_set key spaceKey title operations
  refine ⟨⟨?_, m.lowerKey_eq⟩, ⟨?_, m.lowerSpaceKey_eq⟩, ⟨?_, ?_⟩, m.lowerFields_eq, m.distinct,
    ⟨before, setting, after, labels, hsplit, hset, hafter, ?_⟩, m.hasField_iff⟩
  · rw [hm]
    rfl
  · rw [hm]
    rfl
  · rw [hm]
    rfl
  · rw [hm]
    rfl
  · rw [hfields]
    exact congrArg List.eraseDups hlabels

end MigrationMetadata

end SpaceMigration
