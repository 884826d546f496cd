import Mathlib.Data.List.Basic
import SpaceMigration.Export

/-!
# What an export lists and loads

An export answers from the spaces it was made of. A key that several of them have stands for the
last one, and an identifier that several documents of a space have stands for the first one. So a
document can be loaded exactly if it is listed, and what is refused is refused because the space or
the document is not there.

## Main definitions

* `LastWithKey` — the space for which a key stands
* `FirstWithId` — the document for which an identifier stands

## Main results

* `Export.list_eq_ok_iff`, `Export.load_eq_ok_iff` — what is listed and loaded
* `Export.list_eq_error_iff`, `Export.load_eq_error_iff` — what is refused, and why
-/

namespace SpaceMigration

/-- The space is the last one of the list with the key. -/
def LastWithKey (spaces : List ExportSpace) (key : String) (space : ExportSpace) : Prop :=
  ∃ before after, spaces = before ++ space :: after ∧ space.key = key ∧
    ∀ later ∈ after, later.key ≠ key

theorem LastWithKey.append {spaces : List ExportSpace} {key : String} {space : ExportSpace}
    (h : LastWithKey spaces key space) (front : List ExportSpace) :
    LastWithKey (front ++ spaces) key space := by
  obtain ⟨before, after, rfl, hkey, hafter⟩ := h
  exact ⟨front ++ before, after, by rw [List.append_assoc], hkey, hafter⟩

theorem LastWithKey.key_eq {spaces : List ExportSpace} {key : String} {space : ExportSpace}
    (h : LastWithKey spaces key space) : space.key = key := by
  obtain ⟨_, _, -, hkey, -⟩ := h
  exact hkey

theorem LastWithKey.mem {spaces : List ExportSpace} {key : String} {space : ExportSpace}
    (h : LastWithKey spaces key space) : space ∈ spaces := by
  obtain ⟨before, after, rfl, -, -⟩ := h
  simp

/-- The document is the first one of the list with the identifier. -/
def FirstWithId (documents : List SourceDocument) (documentId : String)
    (document : SourceDocument) : Prop :=
  ∃ before after, documents = before ++ document :: after ∧ document.id = documentId ∧
    ∀ earlier ∈ before, earlier.id ≠ documentId

theorem FirstWithId.mem {documents : List SourceDocument} {documentId : String}
    {document : SourceDocument} (h : FirstWithId documents documentId document) :
    document ∈ documents := by
  obtain ⟨before, after, rfl, -, -⟩ := h
  simp

theorem find?_eq_some_iff_firstWithId {documents : List SourceDocument} {documentId : String}
    {document : SourceDocument} :
    (documents.find? fun d => d.id == documentId) = some document ↔
      FirstWithId documents documentId document := by
  rw [List.find?_eq_some_iff_append]
  constructor
  · rintro ⟨hid, before, after, hsplit, hbefore⟩
    exact ⟨before, after, hsplit, by simpa using hid, fun d hd => by simpa using hbefore d hd⟩
  · rintro ⟨before, after, hsplit, hid, hbefore⟩
    exact ⟨by simpa using hid, before, after, hsplit, fun d hd => by simpa using hbefore d hd⟩

/-- An identifier stands for a document if some document of the list has it. -/
theorem exists_firstWithId_iff {documents : List SourceDocument} {documentId : String} :
    (∃ document, FirstWithId documents documentId document) ↔
      documentId ∈ documents.map (·.id) := by
  simp only [← find?_eq_some_iff_firstWithId, ← Option.isSome_iff_exists, List.find?_isSome,
    List.mem_map, beq_iff_eq]

namespace Export

/-! ### Lookups -/

theorem mem_spaceKeys_iff {source : Export} {spaceKey : String} :
    spaceKey ∈ source.spaceKeys ↔ ∃ space, source.get? spaceKey = some space :=
  source.mem_keys_iff spaceKey

/-- A key stands for its last space. -/
theorem get?_ofSpaces_eq_some_iff {spaces : List ExportSpace} {spaceKey : String}
    {space : ExportSpace} :
    (ofSpaces spaces).get? spaceKey = some space ↔ LastWithKey spaces spaceKey space := by
  rw [ofSpaces, StringMap.get?_ofList_eq_some_iff_last]
  constructor
  · rintro ⟨before, after, hsplit, hafter⟩
    obtain ⟨front, back, rfl, -, hback⟩ := List.map_eq_append_iff.1 hsplit
    obtain ⟨found, rest, rfl, hfound, rfl⟩ := List.map_eq_cons_iff.1 hback
    obtain ⟨rfl, rfl⟩ := Prod.mk.inj hfound
    refine ⟨front, rest, rfl, rfl, ?_⟩
    intro later hlater heq
    exact hafter (by simpa using ⟨later, hlater, heq⟩)
  · rintro ⟨before, after, rfl, rfl, hafter⟩
    exact ⟨_, after.map fun space => (space.key, space), by rw [List.map_append, List.map_cons],
      by simpa using hafter⟩

theorem mem_spaceKeys_ofSpaces_iff {spaces : List ExportSpace} {spaceKey : String} :
    spaceKey ∈ (ofSpaces spaces).spaceKeys ↔ ∃ space ∈ spaces, space.key = spaceKey := by
  rw [spaceKeys, ofSpaces, StringMap.mem_keys_ofList_iff]
  simp

/-! ### Listing -/

theorem list_eq_ok_iff {source : Export} {spaceKey : String} {listed : List String} :
    source.list spaceKey = .ok listed ↔
      ∃ space, source.get? spaceKey = some space ∧ space.documents.map (·.id) = listed := by
  rw [list]
  cases source.get? spaceKey with
  | none => simp
  | some space => simp

theorem list_eq_error_iff {source : Export} {spaceKey : String} {e : MigrationError} :
    source.list spaceKey = .error e ↔
      spaceKey ∉ source.spaceKeys ∧ e = ⟨.notFound, "space " ++ spaceKey⟩ := by
  rw [list, mem_spaceKeys_iff]
  cases source.get? spaceKey with
  | none => simp [eq_comm]
  | some space => simp

/-- The identifiers of the documents of a space. A space that the export does not have has none. -/
def documentIds (source : Export) (spaceKey : String) : List String :=
  match source.get? spaceKey with
  | none => []
  | some space => space.documents.map (·.id)

theorem documentIds_of_list {source : Export} {spaceKey : String} {listed : List String}
    (h : source.list spaceKey = .ok listed) : source.documentIds spaceKey = listed := by
  obtain ⟨space, hspace, hids⟩ := list_eq_ok_iff.1 h
  rw [documentIds, hspace]
  exact hids

theorem getD_toOption_list (source : Export) (spaceKey : String) :
    (source.list spaceKey).toOption.getD [] = source.documentIds spaceKey := by
  rw [list, documentIds]
  cases source.get? spaceKey <;> rfl

/-! ### Loading -/

/-- A document is loaded if it is the one for which its identifier stands in its space. -/
theorem load_eq_ok_iff {source : Export} {spaceKey documentId : String}
    {document : SourceDocument} :
    source.load spaceKey documentId = .ok document ↔
      ∃ space, source.get? spaceKey = some space ∧
        FirstWithId space.documents documentId document := by
  simp only [← find?_eq_some_iff_firstWithId]
  rw [load]
  cases source.get? spaceKey with
  | none => simp
  | some space =>
    cases hfind : space.documents.find? fun d => d.id == documentId <;> simp [hfind]

theorem load_eq_error_iff {source : Export} {spaceKey documentId : String} {e : MigrationError} :
    source.load spaceKey documentId = .error e ↔
      spaceKey ∉ source.spaceKeys ∧ e = ⟨.notFound, "space " ++ spaceKey⟩ ∨
        ∃ listed, source.list spaceKey = .ok listed ∧ documentId ∉ listed ∧
          e = ⟨.notFound, "document " ++ documentId ++ " in space " ++ spaceKey⟩ := by
  rw [load, mem_spaceKeys_iff, list]
  cases source.get? spaceKey with
  | none => simp [eq_comm]
  | some space =>
    have hlisted : documentId ∈ space.documents.map (·.id) ↔
        ∃ document, (space.documents.find? fun d => d.id == documentId) = some document := by
      simp only [← exists_firstWithId_iff, find?_eq_some_iff_firstWithId]
    cases hfind : space.documents.find? fun d => d.id == documentId with
    | none =>
      have habsent : documentId ∉ space.documents.map (·.id) := by simp [hlisted, hfind]
      simp [-List.mem_map, habsent, hfind, eq_comm]
    | some document =>
      have hpresent : documentId ∈ space.documents.map (·.id) := hlisted.2 ⟨document, hfind⟩
      simp [-List.mem_map, hpresent, hfind]

/-- What is listed can be loaded, and nothing else. -/
theorem exists_load_iff {source : Export} {spaceKey documentId : String} :
    (∃ document, source.load spaceKey documentId = .ok document) ↔
      ∃ listed, source.list spaceKey = .ok listed ∧ documentId ∈ listed := by
  simp only [load_eq_ok_iff, list_eq_ok_iff]
  constructor
  · rintro ⟨document, space, hspace, hfirst⟩
    exact ⟨_, ⟨space, hspace, rfl⟩, exists_firstWithId_iff.1 ⟨document, hfirst⟩⟩
  · rintro ⟨listed, ⟨space, hspace, rfl⟩, hmem⟩
    obtain ⟨document, hfirst⟩ := exists_firstWithId_iff.2 hmem
    exact ⟨document, space, hspace, hfirst⟩

theorem id_of_load {source : Export} {spaceKey documentId : String} {document : SourceDocument}
    (h : source.load spaceKey documentId = .ok document) : document.id = documentId := by
  obtain ⟨_, -, _, _, -, hid, -⟩ := load_eq_ok_iff.1 h
  exact hid

end Export

end SpaceMigration
