import SpaceMigration.Proofs.ContentText
import SpaceMigration.Proofs.ExportContents

/-!
# What the text of an export says

An accepted text is the JSON value of a list of spaces, and the export answers from these spaces.
The macros of its documents are those that are written in the text. A macro is written with an
identifier that is not empty, or the text is refused; this goes for all spaces of the text, the
replaced ones included.

## Main definitions

* `Json.Value.HasItem` — what is written in a list of a record
* `WritesMacro` — the macros that are written in the value of an export

## Main results

* `Export.parse_lists_and_loads` — what an accepted export names, lists and loads
-/

namespace SpaceMigration

open Json (Value Fields mapM_eq_some_iff)

/-! ### Lists of records -/

/-- The item is written in the list that the record has in the field. -/
def Json.Value.HasItem (names : List String) (name : String) (record item : Value) : Prop :=
  ∃ fields items, record.fields? names = some fields ∧ fields.get? name = some (.array items) ∧
    item ∈ items

/-- The elements are those that are read from the items of the list in the field. -/
structure Json.Value.ReadsItems {α : Type} (names : List String) (name : String)
    (read : Value → Option α) (record : Value) (elements : List α) : Prop where
  reads : ∀ item, record.HasItem names name item → ∃ a ∈ elements, read item = some a
  written : ∀ a ∈ elements, ∃ item, record.HasItem names name item ∧ read item = some a

theorem Json.Value.ReadsItems.of_withDefault {α : Type} {names : List String} {name : String}
    {read : Value → Option α} {record : Value} {fields : Fields} {elements : List α}
    (hfields : record.fields? names = some fields)
    (h : fields.withDefault name [] (·.asList read) = some elements) :
    record.ReadsItems names name read elements := by
  rw [Fields.withDefault] at h
  cases hvalue : fields.get? name with
  | none =>
    rw [hvalue] at h
    obtain rfl := Option.some.inj h
    refine ⟨?_, by simp⟩
    rintro item ⟨other, items, hother, hitems, -⟩
    cases hfields.symm.trans hother
    cases hvalue.symm.trans hitems
  | some value =>
    rw [hvalue] at h
    cases value with
    | array items =>
      have hread : items.map read = elements.map some := mapM_eq_some_iff.1 h
      constructor
      · rintro item ⟨other, others, hother, hitems, hitem⟩
        cases hfields.symm.trans hother
        cases hvalue.symm.trans hitems
        obtain ⟨a, ha, heq⟩ := List.mem_map.1 (hread ▸ List.mem_map_of_mem (f := read) hitem)
        exact ⟨a, ha, heq.symm⟩
      · intro a ha
        obtain ⟨item, hitem, heq⟩ :=
          List.mem_map.1 (hread.symm ▸ List.mem_map_of_mem (f := some) ha)
        exact ⟨item, ⟨fields, items, hfields, hvalue, hitem⟩, heq⟩
    | _ => cases h

/-! ### The levels of an export -/

/-- The value is written as a macro of a document of a space of the export. -/
def WritesMacro (exported written : Value) : Prop :=
  ∃ space document block,
    exported.HasItem ["spaces"] "spaces" space ∧
    space.HasItem ["key", "name", "documents"] "documents" document ∧
    document.HasItem ["id", "title", "labels", "excerpt", "content"] "content" block ∧
    block.asCase = some ("macro", written)

/-- The identifier with which a macro is written. -/
def Json.Value.macroId? (written : Value) : Option String :=
  (written.fields? ["macro_id", "parameters", "body"]).bind (·.required "macro_id" (·.asText))

theorem Export.readsItems_of_readSpaces? {v : Value} {spaces : List ExportSpace}
    (h : readSpaces? v = some spaces) : v.ReadsItems ["spaces"] "spaces" readSpace? spaces := by
  obtain ⟨fields, hfields, hspaces⟩ := Option.bind_eq_some_iff.1 h
  obtain ⟨value, hvalue, hread⟩ := Option.bind_eq_some_iff.1 hspaces
  refine .of_withDefault hfields ?_
  rw [Fields.withDefault, hvalue]
  exact hread

theorem Export.readsItems_of_readSpace? {v : Value} {space : ExportSpace}
    (h : readSpace? v = some space) :
    v.ReadsItems ["key", "name", "documents"] "documents" SourceDocument.ofJson?
      space.documents := by
  simp only [readSpace?, Option.bind_eq_bind, Option.bind_eq_some_iff] at h
  obtain ⟨fields, hfields, key, -, name, -, documents, hdocuments, hspace⟩ := h
  cases hspace
  exact .of_withDefault hfields hdocuments

theorem SourceDocument.readsItems_of_ofJson? {v : Value} {document : SourceDocument}
    (h : ofJson? v = some document) :
    v.ReadsItems ["id", "title", "labels", "excerpt", "content"] "content" ContentBlock.ofJson?
      document.content := by
  simp only [ofJson?, Option.bind_eq_bind, Option.bind_eq_some_iff] at h
  obtain ⟨fields, hfields, id, -, title, -, labels, -, excerpt, -, content, hcontent, hdocument⟩ :=
    h
  cases hdocument
  exact .of_withDefault hfields hcontent

theorem Occurrence.macroId?_of_ofJson? {v : Value} {o : Occurrence} (h : ofJson? v = some o) :
    v.macroId? = some o.id := by
  simp only [ofJson?, Option.bind_eq_bind, Option.bind_eq_some_iff] at h
  obtain ⟨fields, hfields, id, hid, parameters, -, body, -, ho⟩ := h
  rw [ofParts] at ho
  split at ho
  · cases ho
  · cases ho
    rw [Value.macroId?, hfields, Option.bind_some, hid]

theorem ContentBlock.ofJson?_eq_call_iff {v : Value} {o : Occurrence} :
    ofJson? v = some (.call o) ↔
      ∃ written, v.asCase = some ("macro", written) ∧ Occurrence.ofJson? written = some o := by
  rw [ofJson?]
  cases v.asCase with
  | none => simp
  | some kind =>
    obtain ⟨name, argument⟩ := kind
    by_cases htext : name = "text"
    · simp [htext]
    · by_cases hcall : name = "macro"
      · simp [hcall]
      · simp [htext, hcall]

/-! ### The text of a list of spaces -/

/-- A space is written with all its parts. -/
def ExportSpace.toJson (space : ExportSpace) : Value :=
  .record [("key", .text space.key), ("name", .text space.name),
    ("documents", .array (space.documents.map SourceDocument.toJson))]

theorem ExportSpace.toJson_plain (space : ExportSpace) : space.toJson.Plain :=
  .record (by simp [Value.Plain.text, Value.Plain.map SourceDocument.toJson_plain])

namespace Export

theorem readSpace?_toJson (space : ExportSpace) : readSpace? space.toJson = some space := by
  rw [readSpace?, ExportSpace.toJson, Value.fields?_record]
  · simp [Fields.required, Fields.withDefault, Fields.get?, StringMap.lookup,
      Value.asList_map SourceDocument.ofJson?_toJson]
  · rfl
  · decide

/-- The text in which spaces are written. -/
def textOf (spaces : List ExportSpace) : String :=
  (Value.record [("spaces", .array (spaces.map ExportSpace.toJson))]).compact

/-- Every list of spaces has a text. -/
theorem spacesOf?_textOf (spaces : List ExportSpace) : spacesOf? (textOf spaces) = some spaces := by
  have hplain : (Value.record [("spaces", .array (spaces.map ExportSpace.toJson))]).Plain :=
    .record (by simp [Value.Plain.map ExportSpace.toJson_plain])
  rw [spacesOf?, textOf, hplain.read_compact, readSpaces?, Value.fields?_record]
  · exact Value.asList_map readSpace?_toJson spaces
  · rfl
  · decide

theorem parse_textOf (spaces : List ExportSpace) : parse (textOf spaces) = .ok (ofSpaces spaces) := by
  rw [parse, spacesOf?_textOf]

/-! ### The macros of a text -/

variable {v : Value} {spaces : List ExportSpace}

/-- A value is refused if one of its macros cannot be read. -/
theorem exists_ofJson?_of_writesMacro (h : readSpaces? v = some spaces) {written : Value}
    (hwritten : WritesMacro v written) : ∃ o, Occurrence.ofJson? written = some o := by
  obtain ⟨spaceValue, documentValue, blockValue, hspace, hdocument, hblock, hcase⟩ := hwritten
  obtain ⟨space, -, hspace⟩ := (readsItems_of_readSpaces? h).reads _ hspace
  obtain ⟨document, -, hdocument⟩ := (readsItems_of_readSpace? hspace).reads _ hdocument
  obtain ⟨block, -, hblock⟩ :=
    (SourceDocument.readsItems_of_ofJson? hdocument).reads _ hblock
  rw [ContentBlock.ofJson?, hcase] at hblock
  obtain ⟨o, ho, -⟩ := Option.map_eq_some_iff.1 hblock
  exact ⟨o, ho⟩

/-- The macros of the documents are written in the value. -/
theorem exists_writesMacro_of_mem (h : readSpaces? v = some spaces) {space : ExportSpace}
    (hspace : space ∈ spaces) {document : SourceDocument} (hdocument : document ∈ space.documents)
    {o : Occurrence} (ho : .call o ∈ document.content) :
    ∃ written, WritesMacro v written ∧ Occurrence.ofJson? written = some o := by
  obtain ⟨spaceValue, hitem, hspace⟩ := (readsItems_of_readSpaces? h).written _ hspace
  obtain ⟨documentValue, hitem', hdocument⟩ :=
    (readsItems_of_readSpace? hspace).written _ hdocument
  obtain ⟨blockValue, hitem'', hblock⟩ :=
    (SourceDocument.readsItems_of_ofJson? hdocument).written _ ho
  obtain ⟨written, hcase, hwritten⟩ := ContentBlock.ofJson?_eq_call_iff.1 hblock
  exact ⟨written, ⟨_, _, _, hitem, hitem', hitem'', hcase⟩, hwritten⟩

/-- A text is accepted if it is the JSON value of a list of spaces. -/
theorem parse_eq_ok_iff {text : String} {source : Export} :
    parse text = .ok source ↔
      ∃ v spaces, Value.parse? text = some v ∧ readSpaces? v = some spaces ∧
        ofSpaces spaces = source := by
  rw [parse, spacesOf?]
  cases Value.parse? text with
  | none => simp
  | some v =>
    rw [Option.bind_some]
    cases hspaces : readSpaces? v <;> simp [hspaces]

/-- **What the text of an export says.** An accepted text lists spaces, and the export names their
keys in strictly increasing order and once each. It lists the documents of the last space with a
key, and loads the first of these documents with an identifier; everything else is not found. No
macro of the text has an empty identifier, in whatever space it is written, and the macros of the
documents that are loaded are macros of the text. -/
theorem parse_lists_and_loads (text : String) (source : Export) (h : parse text = .ok source) :
    ∃ v spaces, Value.parse? text = some v ∧ readSpaces? v = some spaces ∧
      source.spaceKeys.Pairwise (fun a b => a < b) ∧
      (∀ key, key ∈ source.spaceKeys ↔ ∃ space ∈ spaces, space.key = key) ∧
      (∀ key, (∃ listed, source.list key = .ok listed) ↔ key ∈ source.spaceKeys) ∧
      (∀ key listed, source.list key = .ok listed ↔
        ∃ space, LastWithKey spaces key space ∧ space.documents.map (·.id) = listed) ∧
      (∀ key e, source.list key = .error e ↔
        key ∉ source.spaceKeys ∧ e = ⟨.notFound, "space " ++ key⟩) ∧
      (∀ key id, (∃ document, source.load key id = .ok document) ↔
        ∃ listed, source.list key = .ok listed ∧ id ∈ listed) ∧
      (∀ key id document, source.load key id = .ok document ↔
        ∃ space, LastWithKey spaces key space ∧ FirstWithId space.documents id document) ∧
      (∀ key id e, source.load key id = .error e ↔
        key ∉ source.spaceKeys ∧ e = ⟨.notFound, "space " ++ key⟩ ∨
          ∃ listed, source.list key = .ok listed ∧ id ∉ listed ∧
            e = ⟨.notFound, "document " ++ id ++ " in space " ++ key⟩) ∧
      (∀ written, WritesMacro v written → ∃ id, written.macroId? = some id ∧ id ≠ "") ∧
      (∀ key id document o, source.load key id = .ok document → .call o ∈ document.content →
        o.id ≠ "" ∧ ∃ written, WritesMacro v written ∧ written.macroId? = some o.id) := by
  obtain ⟨v, spaces, hvalue, hspaces, rfl⟩ := parse_eq_ok_iff.1 h
  refine ⟨v, spaces, hvalue, hspaces, StringMap.keys_ordered _, fun _ => mem_spaceKeys_ofSpaces_iff,
    fun _ => ?_, fun _ _ => ?_, fun _ _ => list_eq_error_iff, fun _ _ => exists_load_iff,
    fun _ _ _ => ?_, fun _ _ _ => load_eq_error_iff, ?_, ?_⟩
  · simp only [list_eq_ok_iff, mem_spaceKeys_iff]
    exact ⟨fun ⟨_, space, hspace, _⟩ => ⟨space, hspace⟩, fun ⟨space, hspace⟩ =>
      ⟨_, space, hspace, rfl⟩⟩
  · simp only [list_eq_ok_iff, get?_ofSpaces_eq_some_iff]
  · simp only [load_eq_ok_iff, get?_ofSpaces_eq_some_iff]
  · intro written hwritten
    obtain ⟨o, ho⟩ := exists_ofJson?_of_writesMacro hspaces hwritten
    exact ⟨o.id, Occurrence.macroId?_of_ofJson? ho, o.id_ne_empty⟩
  · intro key id document o hload ho
    obtain ⟨space, hspace, hfirst⟩ := load_eq_ok_iff.1 hload
    have hlast := get?_ofSpaces_eq_some_iff.1 hspace
    obtain ⟨written, hwritten, hread⟩ :=
      exists_writesMacro_of_mem hspaces hlast.mem hfirst.mem ho
    exact ⟨o.id_ne_empty, written, hwritten, Occurrence.macroId?_of_ofJson? hread⟩

/-- An export in which a space and a document are each there twice: the second space counts, and the
first of its documents. -/
theorem parse_lists_and_loads_repeated :
    let spaces : List ExportSpace := [⟨"ENG", "Old", [⟨"news", "News", [], "", []⟩]⟩,
      ⟨"ENG", "Engineering", [⟨"home", "Home", [], "", [.call ⟨"toc", .empty, "", by decide⟩]⟩,
        ⟨"home", "Second home", [], "", []⟩]⟩]
    ∃ source, parse (textOf spaces) = .ok source ∧ source.list "ENG" = .ok ["home", "home"] ∧
      (∃ document, source.load "ENG" "home" = .ok document ∧ document.title = "Home" ∧
        ∀ o, .call o ∈ document.content → o.id ≠ "") ∧
      source.load "ENG" "news" = .error ⟨.notFound, "document news in space ENG"⟩ := by
  intro spaces
  have hparse := parse_textOf spaces
  have hlist : (ofSpaces spaces).list "ENG" = .ok ["home", "home"] := rfl
  obtain ⟨v, _, -, -, -, -, -, -, -, hloads, -, herrors, -, hcalls⟩ :=
    parse_lists_and_loads _ _ hparse
  obtain ⟨document, hload⟩ := (hloads "ENG" "home").2 ⟨_, hlist, by decide⟩
  refine ⟨_, hparse, hlist, ⟨document, hload, ?_, ?_⟩, ?_⟩
  · cases hload
    rfl
  · exact fun o ho => (hcalls _ _ _ o hload ho).1
  · exact (herrors "ENG" "news" _).2 (.inr ⟨_, hlist, by decide, rfl⟩)

end Export

end SpaceMigration
