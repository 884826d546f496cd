import SpaceMigration.Proofs.ExportContents
import SpaceMigration.Proofs.SteadyRuns

/-!
# What a run saves

The meaning of a migration, without loops: an export, a registry and an answer determine which
documents are saved and with what content, and for each space in which order. A document whose
macros all convert is saved once for each time its space lists it; a document with a failing macro
is not saved at all.

`Export.migrated` is that meaning for one space. It follows neither the calls of a run nor its log,
and says of a macro what the registry binds to it rather than what the registry returns. How the
documents of several spaces come between each other follows from the turns of the spaces
(`documentOrder`).

## Main results

* `MigrationJob.run_saves_migrated` — without faults, a run saves the migrated documents of its
  answer and nothing else
* `run_saves_between` — a document that is saved between two documents of another space
-/

namespace SpaceMigration

open Stateful (exec)

/-! ### The meaning of a migration -/

/-- The text of a block in the target. A macro becomes what the converter bound to its identifier
makes of it, if there is one that accepts it, and stays as it is otherwise; there is no text when
the converter fails. -/
def ContentBlock.rendered? (registry : Registry) : ContentBlock → Option String
  | .text content => some content
  | .call o =>
    match registry.get? o.id with
    | none => some o.toCall
    | some c =>
      if c.accepts o then (c.replace o).toOption.map Replacement.toCall else some o.toCall

/-- The content of a document in the target: the texts of its blocks, unless one has none. -/
def SourceDocument.rendered? (registry : Registry) (d : SourceDocument) : Option String :=
  (d.content.mapM (ContentBlock.rendered? registry)).map String.join

/-- The metadata of a document with labels: the labels are kept once each. -/
def SourceDocument.tag? (d : SourceDocument) (spaceKey : String) : Option MigrationMetadata :=
  if d.labels = [] then none
  else some {
    key := d.id
    spaceKey := spaceKey
    title := d.title
    description := d.excerpt
    fields := d.labels.eraseDups
    distinct := nodup_eraseDups d.labels }

/-- The target document of a listed identifier, unless a macro of the document fails. The document
is the first one of the space with the identifier. -/
def ExportSpace.migrated? (registry : Registry) (target : EntityReference) (spaceKey : String)
    (space : ExportSpace) (documentId : String) : Option TargetDocument := do
  let d ← space.documents.find? fun d => d.id == documentId
  let content ← d.rendered? registry
  return ⟨target.child documentId, d.title, content, d.tag? spaceKey⟩

/-- The target documents of a space, in the order in which the space lists its documents. A space
that the export does not have has none. -/
def Export.migrated (source : Export) (registry : Registry) (spaceKey : String)
    (target : EntityReference) : List TargetDocument :=
  match source.get? spaceKey with
  | none => []
  | some space =>
    (space.documents.map (·.id)).filterMap (space.migrated? registry target spaceKey)

/-- The target document of a document of an entry of the answer, unless the export does not have its
space or a macro of it fails. -/
def Export.migratedFor? (source : Export) (registry : Registry)
    (document : (SpaceSelection × EntityReference) × String) : Option TargetDocument :=
  (source.get? document.1.1.key).bind fun space =>
    space.migrated? registry document.1.2 document.1.1.key document.2

/-- The target documents of the listed documents of an entry are those of its space. -/
theorem Export.filterMap_migratedFor? (source : Export) (registry : Registry)
    (entry : SpaceSelection × EntityReference) :
    ((source.documentIds entry.1.key).map fun documentId => (entry, documentId)).filterMap
        (source.migratedFor? registry) = source.migrated registry entry.1.key entry.2 := by
  rw [List.filterMap_map, documentIds, migrated]
  cases hspace : source.get? entry.1.key with
  | none => rfl
  | some space =>
    refine List.filterMap_congr fun documentId _ => ?_
    rw [Function.comp_apply, migratedFor?, hspace, Option.bind_some]

/-- One failing macro is enough for a document to have no content in the target. -/
theorem SourceDocument.rendered?_eq_none_iff (registry : Registry) (d : SourceDocument) :
    d.rendered? registry = none ↔ ∃ block ∈ d.content, block.rendered? registry = none := by
  rw [rendered?, Option.map_eq_none_iff]
  induction d.content with
  | nil => simp
  | cons block rest ih =>
    rw [List.mapM_cons]
    simp only [List.mem_cons, exists_eq_or_imp]
    cases block.rendered? registry with
    | none => simp
    | some text =>
      rw [← ih]
      cases rest.mapM (ContentBlock.rendered? registry) <;> simp

/-! ### Calls without faults -/

/-- The call has the result that the export and the registry give it: nothing fails by itself, and
the job is not cancelled. -/
def Call.FaultFree (source : Export) (registry : Registry) : Call → Prop
  | .check cancelled => cancelled = false
  | .list spaceKey result => result = source.list spaceKey
  | .load spaceKey documentId result => result = source.load spaceKey documentId
  | .convert o result => result = registry.convert o
  | .save _ result => result = .ok ()

theorem SourceDocument.metadata?_eq_tag? (d : SourceDocument) (spaceKey : String) :
    d.metadata? spaceKey = d.tag? spaceKey := by
  have hfields := MigrationMetadata.firstOccurrences_eq_eraseDups d.labels
  by_cases h : d.labels = []
  · simp [metadata?, tag?, h]
  · simp [metadata?, tag?, h, MigrationMetadata.ofParts, MigrationMetadata.setFields,
      MigrationMetadata.setDescription, MigrationMetadata.new, hfields]

/-- What the registry returns for a macro decides its text. -/
theorem ContentBlock.rendered?_call (registry : Registry) (o : Occurrence) :
    (ContentBlock.call o).rendered? registry = match registry.convert o with
      | .error _ => none
      | .ok (.replaced replacement) => some replacement.toCall
      | .ok .unchanged => some o.toCall := by
  rw [rendered?, Registry.convert]
  cases registry.get? o.id with
  | none => rfl
  | some c =>
    cases haccepts : c.accepts o with
    | false => simp [haccepts]
    | true =>
      simp only [haccepts, ↓reduceIte]
      cases c.replace o <;> rfl

theorem Export.not_isInfrastructure_of_list {source : Export} {spaceKey : String}
    {e : MigrationError} (h : source.list spaceKey = .error e) : e.isInfrastructure = false := by
  obtain ⟨-, rfl⟩ := Export.list_eq_error_iff.1 h
  rfl

theorem Export.not_isInfrastructure_of_load {source : Export} {spaceKey documentId : String}
    {e : MigrationError} (h : source.load spaceKey documentId = .error e) :
    e.isInfrastructure = false := by
  obtain ⟨-, rfl⟩ | ⟨_, -, -, rfl⟩ := Export.load_eq_error_iff.1 h
  · rfl
  · rfl

theorem eq_error_of_failure? {α : Type} {r : Except MigrationError α} {e : MigrationError}
    (h : failure? r = some e) : r = .error e := by
  cases r with
  | ok a => cases h
  | error e' => cases h; rfl

/-- Without faults, no call stops a run, provided that no converter fails with an infrastructure
error. -/
theorem Call.FaultFree.not_stops {source : Export} {registry : Registry}
    (hregistry : ∀ o e, registry.convert o = .error e → e.isInfrastructure = false) {call : Call}
    (h : call.FaultFree source registry) : ¬ call.Stops := by
  rintro (rfl | ⟨e, herror, he⟩)
  · cases h
  · have hplain : e.isInfrastructure = false := by
      cases call with
      | check b => cases herror
      | list spaceKey result =>
        exact Export.not_isInfrastructure_of_list (h ▸ eq_error_of_failure? herror)
      | load spaceKey documentId result =>
        exact Export.not_isInfrastructure_of_load (h ▸ eq_error_of_failure? herror)
      | convert o result => exact hregistry o e (h ▸ eq_error_of_failure? herror)
      | save d result =>
        cases h
        cases herror
    rw [hplain] at he
    cases he

/-! ### The steady source of an export

Without faults a run is steady. What its source saves for a document is the target document. -/

/-- The answers of surroundings that read an export and convert with a registry. -/
def SteadySource.ofExport (source : Export) (registry : Registry) : SteadySource where
  list spaceKey := (source.list spaceKey).toOption
  load spaceKey documentId := (source.load spaceKey documentId).toOption
  convert o := (registry.convert o).toOption

section

variable {source : Export} {registry : Registry} {calls : List Call}

theorem Call.FaultFree.answeredBy {call : Call} (h : call.FaultFree source registry) :
    call.AnsweredBy (.ofExport source registry) := by
  cases call with
  | check cancelled => trivial
  | save d result => exact h
  | _ => exact congrArg Except.toOption h

theorem SteadySource.text?_ofExport (block : ContentBlock) :
    (ofExport source registry).text? block = block.rendered? registry := by
  cases block with
  | text content => rfl
  | call o =>
    have hconvert : (ofExport source registry).convert o = (registry.convert o).toOption := rfl
    rw [ContentBlock.rendered?_call, text?, hconvert]
    cases registry.convert o with
    | error e => rfl
    | ok conversion => cases conversion <;> rfl

theorem SteadySource.content?_ofExport (d : SourceDocument) :
    (ofExport source registry).content? d.content = d.rendered? registry := by
  rw [content?, SourceDocument.rendered?, funext text?_ofExport]

/-- The target document of a listed identifier is the document that a run saves for it. -/
theorem ExportSpace.migrated?_of_rendered {space : ExportSpace} {spaceKey documentId : String}
    {target : EntityReference} {document : SourceDocument} {content : String}
    (hfind : (space.documents.find? fun d => d.id == documentId) = some document)
    (hrendered : document.rendered? registry = some content) :
    space.migrated? registry target spaceKey documentId =
      some (document.migrated spaceKey target content) := by
  have hid : document.id = documentId := by
    simpa using List.find?_some hfind
  rw [migrated?, hfind]
  simp [hrendered, SourceDocument.migrated, hid, SourceDocument.metadata?_eq_tag?]

theorem SteadySource.saved?_ofExport {spaceKey : String} {space : ExportSpace}
    (hspace : source.get? spaceKey = some space) (target : EntityReference) (documentId : String) :
    (ofExport source registry).saved? spaceKey target documentId =
      space.migrated? registry target spaceKey documentId := by
  have hload : (ofExport source registry).load spaceKey documentId =
      space.documents.find? fun d => d.id == documentId := by
    change (source.load spaceKey documentId).toOption = _
    rw [Export.load, hspace]
    cases hfind : space.documents.find? fun d => d.id == documentId <;>
      simp [hfind, Except.toOption]
  cases hfind : space.documents.find? fun d => d.id == documentId with
  | none =>
    rw [saved?, hload, ExportSpace.migrated?, hfind]
    rfl
  | some document =>
    rw [saved?_of_load _ (hload.trans hfind), content?_ofExport]
    cases hrendered : document.rendered? registry with
    | none => simp [ExportSpace.migrated?, hfind, hrendered]
    | some content => exact (ExportSpace.migrated?_of_rendered hfind hrendered).symm

theorem SteadySource.savedFor?_ofExport :
    (ofExport source registry).savedFor? = source.migratedFor? registry := by
  funext document
  rw [savedFor?, Export.migratedFor?]
  cases hspace : source.get? document.1.1.key with
  | none =>
    have hload : (ofExport source registry).load document.1.1.key document.2 = none := by
      simp [ofExport, Export.load, hspace, Except.toOption]
    rw [saved?, hload]
    rfl
  | some space => exact saved?_ofExport hspace document.1.2 document.2

theorem SteadySource.documentIds_ofExport (source : Export) (registry : Registry) :
    (ofExport source registry).documentIds = source.documentIds :=
  funext source.getD_toOption_list

/-- The blocks of a document convert to its rendered content, or fail when there is none. -/
theorem BlocksTranscript.rendered {blocks : List ContentBlock}
    {r : Except MigrationError (String × Tally)} (h : BlocksTranscript blocks calls r)
    (hcalls : ∀ call ∈ calls, call.FaultFree source registry) :
    r.toOption.map (·.1) = (blocks.mapM (ContentBlock.rendered? registry)).map String.join := by
  rw [h.content fun call hc => (hcalls call hc).answeredBy, SteadySource.content?,
    funext SteadySource.text?_ofExport]

theorem TurnsRun.saves {job : MigrationJob} {turns : List Nat} {snapshot : JobSnapshot}
    (h : TurnsRun job turns calls snapshot)
    (hregistry : ∀ o e, registry.convert o = .error e → e.isInfrastructure = false)
    (hcalls : ∀ call ∈ calls, call.FaultFree source registry) :
    calls.filterMap Call.savedDocument? =
      (documentOrder job.maxParallelSpaces turns (job.spaces source.documentIds)).filterMap
        (source.migratedFor? registry) := by
  obtain ⟨-, -, hsaved, -⟩ := h.of_steady (fun call hc => (hcalls call hc).not_stops hregistry)
    fun call hc => (hcalls call hc).answeredBy
  rw [hsaved, SteadySource.savedFor?_ofExport, SteadySource.documentIds_ofExport]

/-- The documents of all spaces, one space after another. -/
theorem MigrationJob.filterMap_spaces (job : MigrationJob) (source : Export)
    (registry : Registry) :
    ((job.spaces source.documentIds).flatMap fun space =>
        space.2.map fun documentId => (space.1, documentId)).filterMap
          (source.migratedFor? registry) =
      job.effectiveAnswer.entries.flatMap fun entry =>
        source.migrated registry entry.1.key entry.2 := by
  rw [spaces, List.flatMap_map, List.filterMap_flatMap]
  exact List.flatMap_congr fun entry _ => source.filterMap_migratedFor? registry entry

/-- Without turns, a run saves the documents of one space after those of another. -/
theorem TurnsRun.saves_of_nil {job : MigrationJob} {snapshot : JobSnapshot}
    (h : TurnsRun job [] calls snapshot)
    (hregistry : ∀ o e, registry.convert o = .error e → e.isInfrastructure = false)
    (hcalls : ∀ call ∈ calls, call.FaultFree source registry) :
    calls.filterMap Call.savedDocument? =
      job.effectiveAnswer.entries.flatMap fun entry =>
        source.migrated registry entry.1.key entry.2 := by
  rw [h.saves hregistry hcalls, documentOrder_nil, job.filterMap_spaces]

end

/-- The host of an export whose target takes every document answers without faults. -/
theorem Host.Answers.faultFree_of_saves {m : Type → Type} [Monad m] {σ : Type} [Stateful m σ]
    {source : Export} {registry : Registry} {clock : m Timestamp}
    {save : TargetDocument → m (Except MigrationError Unit)}
    (hsave : ∀ d s, (exec (save d) s).1 = .ok ()) {call : Call} {s t : σ}
    (h : (Host.ofExport source registry clock (pure false) save).Answers s call t) :
    call.FaultFree source registry := by
  have hpure {α : Type} {a b : α} (h : exec (pure a : m α) s = (b, t)) : b = a := by
    rw [Stateful.exec_pure] at h
    exact (congrArg Prod.fst h).symm
  cases call with
  | save d result => exact (congrArg Prod.fst h).symm.trans (hsave d s)
  | _ => exact hpure h

theorem Host.Path.faultFree_of_saves {m : Type → Type} [Monad m] {σ : Type} [Stateful m σ]
    {source : Export} {registry : Registry} {clock : m Timestamp}
    {save : TargetDocument → m (Except MigrationError Unit)}
    (hsave : ∀ d s, (exec (save d) s).1 = .ok ()) {calls : List Call} {s t : σ}
    (h : (Host.ofExport source registry clock (pure false) save).Path s calls t) :
    ∀ call ∈ calls, call.FaultFree source registry := by
  intro call hc
  obtain ⟨s, t, hanswer⟩ := h.answered hc
  exact hanswer.faultFree_of_saves hsave

theorem Host.Answers.faultFree {σ : Type} {source : Export} {registry : Registry}
    {clock : StateM σ Timestamp} {save : TargetDocument → StateM σ (Except MigrationError Unit)}
    (hsave : ∀ d s, ((save d).run s).1 = .ok ()) {call : Call} {s t : σ × Unit}
    (h : (Host.ofExport source registry clock (pure false) save).Answers s call t) :
    call.FaultFree source registry :=
  h.faultFree_of_saves fun d s => hsave d s.1

theorem Host.Path.faultFree {σ : Type} {source : Export} {registry : Registry}
    {clock : StateM σ Timestamp} {save : TargetDocument → StateM σ (Except MigrationError Unit)}
    (hsave : ∀ d s, ((save d).run s).1 = .ok ()) {calls : List Call} {s t : σ × Unit}
    (h : (Host.ofExport source registry clock (pure false) save).Path s calls t) :
    ∀ call ∈ calls, call.FaultFree source registry :=
  h.faultFree_of_saves fun d s => hsave d s.1

/-- **A run saves the migrated documents of its answer and nothing else**, those of each space in
order. This holds for every export and every answer, whatever the clock does and however the spaces
take turns, when nothing fails by itself: the job is not cancelled, the target takes every document,
and no converter fails with an infrastructure error. What else a converter does, failing included,
is up to it. With room for one space at once, the spaces follow each other as in the answer. -/
theorem MigrationJob.run_saves_migrated {σ : Type} (job : MigrationJob) (source : Export)
    (registry : Registry)
    (hregistry : ∀ o e, registry.convert o = .error e → e.isInfrastructure = false)
    (clock : StateM σ Timestamp)
    (save : TargetDocument → StateM σ (Except MigrationError Unit))
    (hsave : ∀ d s, ((save d).run s).1 = .ok ()) (turns : List Nat) (world : σ) :
    let host := Host.ofExport source registry clock (pure false) save
    let saved := (((job.runInTurns turns host.observed).run []).run world).1.2.filterMap
      Call.savedDocument?
    let order := documentOrder job.maxParallelSpaces turns (job.spaces source.documentIds)
    saved = order.filterMap (source.migratedFor? registry) ∧
      order.Perm (job.effectiveAnswer.entries.flatMap fun entry =>
        (source.documentIds entry.1.key).map fun documentId => (entry, documentId)) ∧
      (∀ entry ∈ job.effectiveAnswer.entries,
        ((source.documentIds entry.1.key).map fun documentId => (entry, documentId)).Sublist order ∧
          (source.migrated registry entry.1.key entry.2).Sublist saved) ∧
      (job.maxParallelSpaces ≤ 1 → saved = job.effectiveAnswer.entries.flatMap fun entry =>
        source.migrated registry entry.1.key entry.2) := by
  intro host saved order
  obtain ⟨hrun, hpath⟩ := job.observed_turnsRun host turns (world, ())
  have hsaved : saved = order.filterMap (source.migratedFor? registry) :=
    hrun.saves hregistry (hpath.faultFree hsave)
  refine ⟨hsaved, ?_, fun entry hentry => ?_, fun hroom => ?_⟩
  · have hperm := documentOrder_perm job.maxParallelSpaces turns (job.spaces source.documentIds)
    rwa [spaces, List.flatMap_map] at hperm
  · have hsub := sublist_documentOrder job.maxParallelSpaces turns _
      (List.mem_map_of_mem (f := fun entry => (entry, source.documentIds entry.1.key)) hentry)
    refine ⟨hsub, ?_⟩
    rw [hsaved, ← source.filterMap_migratedFor? registry entry]
    exact hsub.filterMap _
  · rw [hsaved]
    simp only [order, documentOrder_of_room_le_one _ _ hroom, job.filterMap_spaces]

/-- A registry without converters never fails. -/
theorem not_isInfrastructure_of_empty (o : Occurrence) (e : MigrationError)
    (h : Registry.convert .empty o = .error e) : e.isInfrastructure = false := by
  rw [Registry.convert, StringMap.get?_empty] at h
  cases h

/-- One converter, which makes a heading of a panel with a body and fails without one. -/
def headings : Registry :=
  StringMap.empty.insert "panel" {
    targetId := fun _ => "heading"
    mapBody := fun o => if o.body = "" then .error ⟨.conversion, "empty panel"⟩ else .ok o.body }

theorem not_isInfrastructure_of_headings (o : Occurrence) (e : MigrationError)
    (h : headings.convert o = .error e) : e.isInfrastructure = false := by
  rw [Registry.convert, headings, StringMap.get?_insert] at h
  by_cases hid : o.id = "panel"
  · by_cases hbody : o.body = ""
    · obtain rfl : ⟨.conversion, "empty panel"⟩ = e := by
        simpa [hid, hbody, Converter.replace, Except.map] using h
      rfl
    · simp [hid, hbody, Converter.replace, Except.map] at h
  · simp [hid] at h

/-- Two documents of one space, with one macro each. The second macro does not convert. -/
def twoPanels : ExportSpace where
  key := "ENG"
  name := "Engineering"
  documents :=
    [⟨"home", "Home", ["team", "team"], "", [.text "Hi ", .call ⟨"panel", ∅, "all", by decide⟩]⟩,
      ⟨"void", "Void", [], "", [.text "Hi ", .call ⟨"panel", ∅, "", by decide⟩]⟩]

/-- The second space has all of its turns before the first. The second document of the first space
does not convert. -/
theorem run_saves_first_of_twoPanels :
    let source := Export.ofSpaces [twoPanels,
      ⟨"OPS", "Operations", [⟨"runbook", "Runbook", [], "", [.text "Call"]⟩]⟩]
    let job := MigrationJob.new "job-1"
      ⟨⟨"Audit"⟩, ⟨"Migrated"⟩, [⟨"ENG", "Engineering"⟩, ⟨"OPS", "Operations"⟩]⟩
    let host : Host (StateM Unit) :=
      .ofExport source headings (pure .epoch) (pure false) fun _ => pure (.ok ())
    let calls := (((job.runInTurns [1, 1, 1, 1, 1] host.observed).run []).run ()).1.2
    (∀ o e, headings.convert o = .error e → e.isInfrastructure = false) ∧
      calls.filterMap Call.savedDocument? =
        [⟨⟨"Migrated.OPS.runbook"⟩, "Runbook", "Call", none⟩,
          ⟨⟨"Migrated.ENG.home"⟩, "Home", "Hi \x7b\x7bheading\x7d\x7dall\x7b\x7b/heading\x7d\x7d",
          some (.ofParts "home" "ENG" "Home" "" ["team"])⟩] := by
  refine And.intro not_isInfrastructure_of_headings ?_
  refine (And.left (MigrationJob.run_saves_migrated _ _ _ not_isInfrastructure_of_headings
    (pure .epoch) (fun _ => pure (.ok ())) (fun _ _ => rfl) _ ())).trans ?_
  decide +kernel

/-- **A document can be saved between two documents of another space**, although that space is the
first one of the answer. -/
theorem run_saves_between :
    let source := Export.ofSpaces [⟨"ENG", "Engineering", [⟨"home", "Home", [], "", []⟩,
        ⟨"tasks", "Tasks", [], "", []⟩]⟩,
      ⟨"OPS", "Operations", [⟨"runbook", "Runbook", [], "", []⟩]⟩]
    let job := MigrationJob.new "job-1"
      ⟨⟨"Audit"⟩, ⟨"Migrated"⟩, [⟨"ENG", "Engineering"⟩, ⟨"OPS", "Operations"⟩]⟩
    let host : Host (StateM Unit) :=
      .ofExport source .empty (pure .epoch) (pure false) fun _ => pure (.ok ())
    let saved :=
      ((((job.runInTurns (job.fairTurns source) host.observed).run []).run ()).1.2.filterMap
        Call.savedDocument?).map (·.reference)
    job.effectiveAnswer.keys = ["ENG", "OPS"] ∧
      saved = [⟨"Migrated.ENG.home"⟩, ⟨"Migrated.OPS.runbook"⟩, ⟨"Migrated.ENG.tasks"⟩] ∧
      saved ≠ (job.effectiveAnswer.entries.flatMap fun entry =>
        source.migrated .empty entry.1.key entry.2).map (·.reference) := by
  decide +kernel

end SpaceMigration
