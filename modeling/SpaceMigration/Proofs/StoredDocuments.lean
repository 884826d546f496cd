import SpaceMigration.Proofs.ByteOrder
import SpaceMigration.Proofs.Redelivery
import SpaceMigration.Proofs.Simulation

/-!
# A store keeps the last document of each reference

Whatever has happened to a store, its documents and their metadata are a map from references to
documents, and the map holds for each reference the document that was saved last
(`documents_are_last_saved`). Records, signals, creating the tables and opening the store again do
not touch it, and of a job that runs into the store only its accepted saves count.

The abstract map is the catalog of what was saved. The two tables are images of it: one has a row
for every document of the catalog, the other for those with metadata.

## Main definitions

* `StoreOperation.saved` — the documents that an operation saves
* `catalog` — the documents saved last, by reference

## Main results

* `MigrationJob.run_savingInto` — a job leaves behind the saves that its surroundings accept
* `performAll_sameDocuments` — only saves reach the documents of a store
* `documents_are_last_saved` — what the store answers when asked for documents and metadata
-/

namespace SpaceMigration

open Stateful (exec exec_lift)

/-! ### What a job saves -/

section

variable {m : Type → Type} [Monad m] {σ : Type} [Stateful m σ]

/-- The store has taken the accepted saves of the trace, and the rest of the state is the same. -/
def HoldsAccepted (store : Store) (s : Store × σ) (t : List Call × σ) : Prop :=
  s.1 = store.saveAll (t.1.filterMap Call.accepted?) ∧ s.2 = t.2

/-- Saving into a store and keeping a trace agree: the store takes what the trace says. -/
theorem Host.savingInto_agrees_observed (host : Host m) (store : Store) :
    Host.Agrees (HoldsAccepted store) host.savingInto host.observed := by
  have hcall {α : Type} {x : StateT Store m α} {y : StateT (List Call) m α} {z : m α}
      (call : α → Call)
      (hx : ∀ s r t, exec x s = (r, t) →
        t.1 = s.1.saveAll (call r).accepted?.toList ∧ exec z s.2 = (r, t.2))
      (hy : ∀ s r t, exec y s = (r, t) → t.1 = s.1 ++ [call r] ∧ exec z s.2 = (r, t.2)) :
      Stateful.Agrees (HoldsAccepted store) x y := by
    rintro s t ⟨hstore, hworld⟩
    obtain ⟨hs, hx⟩ := hx s (exec x s).1 (exec x s).2 rfl
    obtain ⟨ht, hy⟩ := hy t (exec y t).1 (exec y t).2 rfl
    rw [hworld] at hx
    obtain ⟨hresult, hafter⟩ := Prod.mk.inj (hx.symm.trans hy)
    refine ⟨hresult, ?_, hafter⟩
    rw [hs, ht, List.filterMap_append, Store.saveAll_append, ← hstore, hresult, List.filterMap_cons]
    cases (call (exec y t).1).accepted? <;> rfl
  constructor
  case clock =>
    rintro s t ⟨hstore, hworld⟩
    have hs : exec host.savingInto.clock s =
        ((exec host.clock s.2).1, s.1, (exec host.clock s.2).2) :=
      exec_lift host.clock s.1 s.2
    have ht : exec host.observed.clock t =
        ((exec host.clock t.2).1, t.1, (exec host.clock t.2).2) :=
      exec_lift host.clock t.1 t.2
    rw [hs, ht, hworld]
    exact ⟨rfl, hstore, rfl⟩
  case isCancelled =>
    exact hcall .check (fun _ _ _ h => Host.Answers.of_savingInto h)
      fun _ _ _ h => Host.Answers.of_observed h
  case list =>
    intro spaceKey
    exact hcall (.list spaceKey) (fun _ _ _ h => Host.Answers.of_savingInto h)
      fun _ _ _ h => Host.Answers.of_observed h
  case load =>
    intro spaceKey documentId
    exact hcall (.load spaceKey documentId) (fun _ _ _ h => Host.Answers.of_savingInto h)
      fun _ _ _ h => Host.Answers.of_observed h
  case convert =>
    intro o
    exact hcall (.convert o) (fun _ _ _ h => Host.Answers.of_savingInto h)
      fun _ _ _ h => Host.Answers.of_observed h
  case save =>
    intro d
    exact hcall (.save d) (fun _ _ _ h => Host.Answers.of_savingInto h)
      fun _ _ _ h => Host.Answers.of_observed h

/-- **A job that runs into a store leaves behind the saves that its surroundings accept.** The store
itself does not show in the run: the trace is that of the surroundings alone. -/
theorem MigrationJob.run_savingInto (job : MigrationJob) (host : Host m) (store : Store) (s : σ) :
    let ((snapshot, calls), s') := exec ((job.run host.observed).run []) s
    exec ((job.run host.savingInto).run store) s =
      ((snapshot, store.saveAll (calls.filterMap Call.accepted?)), s') := by
  obtain ⟨hsnapshot, hstore, hworld⟩ :=
    job.run_agrees (host.savingInto_agrees_observed store) (store, s) ([], s) ⟨rfl, rfl⟩
  exact Prod.ext (Prod.ext hsnapshot hstore) hworld

end

/-! ### What an operation saves -/

/-- The documents that an operation saves. A job saves those that its surroundings accept. -/
def StoreOperation.saved : StoreOperation → List TargetDocument
  | saveDocument document => [document]
  | runJob job host world _ =>
    let ((_, calls), _) := ((job.run host.observed).run []).run world
    calls.filterMap Call.accepted?
  | createRecord _ | saveExecuted _ _ | initDb | reopen | handle _ _ => []

theorem Store.withAuditRow_sameDocuments (store : Store) (document : EntityReference) :
    SameDocuments (store.withAuditRow document) store := by
  rw [withAuditRow]
  split
  · exact .refl _
  · exact ⟨rfl, rfl⟩

theorem Store.saveExecuted_sameDocuments (now : Timestamp) (record : AuditRecord) (store : Store) :
    SameDocuments (store.saveExecuted now record).2 store := by
  obtain ⟨e, h⟩ | ⟨row, -, ⟨-, h⟩ | ⟨-, h⟩⟩ := store.saveExecuted_cases now record
  · rw [h]
    exact .refl _
  · rw [h]
    exact .refl _
  · rw [h]
    exact ⟨rfl, rfl⟩

theorem Store.handle_sameDocuments (now : Timestamp) (signal : JobFinished) (store : Store) :
    SameDocuments (store.handle now signal).2 store := by
  obtain ⟨noted, hhandle⟩ := store.handle_eq_record now signal
  rw [hhandle]
  obtain ⟨result, -, h⟩ | ⟨row, -, -, h⟩ := store.record_cases now signal
  · rw [h]
    exact .refl _
  · rw [h]
    exact ⟨rfl, rfl⟩

/-- An operation does to the documents what saving its documents does. -/
theorem StoreOperation.perform_sameDocuments (operation : StoreOperation) (store : Store) :
    (operation.perform store).2.SameDocuments (store.saveAll operation.saved) := by
  cases operation with
  | createRecord document =>
    change (store.createRecord document).2.SameDocuments store
    rw [Store.createRecord_snd]
    exact store.withAuditRow_sameDocuments document
  | saveExecuted now record => exact store.saveExecuted_sameDocuments now record
  | saveDocument document => exact .refl _
  | initDb => exact .refl _
  | reopen =>
    rw [perform_reopen]
    exact .refl _
  | handle now signal => exact store.handle_sameDocuments now signal
  | runJob job host world now =>
    have hrun : (((job.run host.savingInto).run store).run world).1.2 =
        store.saveAll (runJob job host world now).saved :=
      congrArg (fun r => r.1.2) (job.run_savingInto host store (world, ()))
    rw [perform, ← hrun]
    generalize ((job.run host.savingInto).run store).run world = outcome
    obtain ⟨⟨finished, store'⟩, world'⟩ := outcome
    exact store'.handle_sameDocuments now ⟨finished.jobType, finished⟩

/-- Only saves reach the documents of a store. -/
theorem performAll_sameDocuments (operations : List StoreOperation) (store : Store) :
    (performAll operations store).2.SameDocuments
      (store.saveAll (operations.flatMap StoreOperation.saved)) := by
  induction operations generalizing store with
  | nil => exact .refl _
  | cons operation rest ih =>
    rw [List.flatMap_cons, Store.saveAll_append]
    exact (ih _).trans ((operation.perform_sameDocuments store).saveAll _)

/-! ### The catalog -/

namespace StringMap

variable {β γ : Type}

/-- The map with its values changed, without those that have no image. -/
def filterMap (f : β → Option γ) (map : StringMap β) : StringMap γ where
  entries := map.entries.filterMap fun entry => (f entry.2).map fun value => (entry.1, value)
  ordered := by
    refine map.ordered.filterMap _ ?_
    intro a b hab c hc d hd
    obtain ⟨_, -, rfl⟩ := Option.map_eq_some_iff.1 hc
    obtain ⟨_, -, rfl⟩ := Option.map_eq_some_iff.1 hd
    exact hab

theorem get?_filterMap (f : β → Option γ) (map : StringMap β) (key : String) :
    (map.filterMap f).get? key = (map.get? key).bind f := by
  refine Option.ext ?_
  intro value
  rw [← mem_entries_iff, filterMap, List.mem_filterMap, Option.bind_eq_some_iff]
  constructor
  · rintro ⟨entry, hentry, hvalue⟩
    obtain ⟨v, hv, hpair⟩ := Option.map_eq_some_iff.1 hvalue
    cases hpair
    exact ⟨entry.2, (mem_entries_iff map _ _).1 hentry, hv⟩
  · rintro ⟨b, hb, hvalue⟩
    exact ⟨(key, b), (mem_entries_iff map _ _).2 hb, by rw [hvalue]; rfl⟩

end StringMap

/-- The documents saved last, by reference. -/
def catalog (saved : List TargetDocument) : StringMap TargetDocument :=
  saved.foldl (fun map document => map.insert document.reference.path document) .empty

theorem get?_foldl_insert_reference (saved : List TargetDocument) (map : StringMap TargetDocument)
    (reference : EntityReference) :
    (saved.foldl (fun map document => map.insert document.reference.path document) map).get?
        reference.path = (lastSaved saved reference).or (map.get? reference.path) := by
  induction saved generalizing map with
  | nil => rfl
  | cons document rest ih =>
    rw [List.foldl_cons, ih, StringMap.get?_insert, ← List.singleton_append, lastSaved_append,
      lastSaved_singleton, Option.or_assoc]
    simp only [EntityReference.path_eq_path_iff]
    split <;> rfl

theorem get?_catalog (saved : List TargetDocument) (reference : EntityReference) :
    (catalog saved).get? reference.path = lastSaved saved reference := by
  rw [catalog, get?_foldl_insert_reference, StringMap.get?_empty, Option.or_none]

/-- The documents of a catalog in the order of their references. -/
def current (saved : List TargetDocument) : List TargetDocument :=
  (catalog saved).entries.map (·.2)

theorem mem_entries_catalog_iff (saved : List TargetDocument) (path : String)
    (document : TargetDocument) :
    (path, document) ∈ (catalog saved).entries ↔ lastSaved saved ⟨path⟩ = some document := by
  rw [StringMap.mem_entries_iff, ← get?_catalog]

/-- Every document of a catalog stands under its own reference. -/
theorem entries_catalog (saved : List TargetDocument) :
    (catalog saved).entries =
      (current saved).map fun document => (document.reference.path, document) := by
  rw [current, List.map_map]
  refine (List.map_id _).symm.trans (List.map_congr_left ?_)
  rintro ⟨path, document⟩ hentry
  have hreference := reference_of_lastSaved ((mem_entries_catalog_iff saved path document).1 hentry)
  exact Prod.ext (congrArg EntityReference.path hreference).symm rfl

theorem mem_current_iff (saved : List TargetDocument) (document : TargetDocument) :
    document ∈ current saved ↔ lastSaved saved document.reference = some document := by
  rw [← mem_entries_catalog_iff, entries_catalog, List.mem_map]
  constructor
  · intro h
    exact ⟨document, h, rfl⟩
  · rintro ⟨d, hd, hpair⟩
    exact (Prod.mk.inj hpair).2 ▸ hd

theorem entries_filterMap_catalog {γ : Type} (f : TargetDocument → Option γ)
    (saved : List TargetDocument) :
    ((catalog saved).filterMap f).entries = (current saved).filterMap fun document =>
      (f document).map fun value => (document.reference.path, value) := by
  change (catalog saved).entries.filterMap _ = _
  rw [entries_catalog, List.filterMap_map]
  rfl

theorem current_ordered (saved : List TargetDocument) :
    (current saved).Pairwise fun a b => a.reference.path < b.reference.path := by
  have hordered := (catalog saved).ordered
  rw [entries_catalog, List.pairwise_map] at hordered
  exact hordered

theorem length_current (saved : List TargetDocument) :
    (current saved).length = (saved.map (·.reference)).eraseDups.length := by
  have hnodup : ((current saved).map (·.reference)).Nodup := by
    refine List.pairwise_map.2 ((current_ordered saved).imp ?_)
    intro a b hlt heq
    exact String.lt_irrefl _ (heq ▸ hlt)
  have hmem (reference : EntityReference) : reference ∈ (current saved).map (·.reference) ↔
      reference ∈ saved.map (·.reference) := by
    rw [← isSome_lastSaved_iff saved, Option.isSome_iff_exists, List.mem_map]
    constructor
    · rintro ⟨document, hdocument, rfl⟩
      exact ⟨document, (mem_current_iff saved document).1 hdocument⟩
    · rintro ⟨document, hlast⟩
      obtain rfl := reference_of_lastSaved hlast
      exact ⟨document, (mem_current_iff saved document).2 hlast, rfl⟩
  rw [← (perm_eraseDups hnodup hmem).length_eq, List.length_map]

/-! ### The tables of what was saved -/

namespace Store

/-- The tables hold a row for every document of the catalog, and one for its metadata. -/
theorem tables_saveAll (saved : List TargetDocument) :
    (empty.saveAll saved).documents =
        (catalog saved).filterMap (fun document => document.rows.1) ∧
      (empty.saveAll saved).metadata =
        (catalog saved).filterMap fun document => document.rows.2 := by
  have hrows (path : String) : (empty.saveAll saved).rowsAt ⟨path⟩ =
      (((catalog saved).filterMap fun document => document.rows.1).get? path,
        ((catalog saved).filterMap fun document => document.rows.2).get? path) := by
    rw [rowsAt_saveAll, StringMap.get?_filterMap, StringMap.get?_filterMap,
      get?_catalog saved ⟨path⟩, rowsAt_empty]
    cases lastSaved saved ⟨path⟩ <;> rfl
  exact ⟨StringMap.ext_get? fun path => congrArg Prod.fst (hrows path),
    StringMap.ext_get? fun path => congrArg Prod.snd (hrows path)⟩

theorem documentCount_saveAll (saved : List TargetDocument) :
    (empty.saveAll saved).documentCount = (current saved).length := by
  rw [documentCount, (tables_saveAll saved).1, StringMap.size, entries_filterMap_catalog]
  exact List.filterMap_length_eq_length.2 fun _ _ => rfl

/-- Each saved document is found again as it was, with its metadata. -/
theorem getDocument_saveAll (saved : List TargetDocument) (reference : EntityReference) :
    (empty.saveAll saved).getDocument reference = .ok (lastSaved saved reference) := by
  have hrows := rowsAt_saveAll saved empty reference
  rw [rowsAt_empty] at hrows
  obtain ⟨hdocument, hmetadata⟩ := Prod.mk.inj hrows
  rw [getDocument, hdocument, loadMetadata, hmetadata]
  cases hlast : lastSaved saved reference with
  | none => rfl
  | some document =>
    obtain rfl := reference_of_lastSaved hlast
    obtain ⟨reference, title, content, metadata⟩ := document
    cases metadata with
    | none => rfl
    | some m =>
      simp only [TargetDocument.rows, Option.map_some]
      rw [MetadataRow.decode_ofMetadata]
      rfl

/-- A scan of the metadata meets that of the current documents, in the order of their
references. -/
theorem findMetadata_saveAll (saved : List TargetDocument) (test : MetadataRow → Bool) :
    (empty.saveAll saved).findMetadata test =
      .ok (((current saved).filterMap (·.metadata)).filter fun m => test (.ofMetadata m)) := by
  rw [findMetadata, (tables_saveAll saved).2, entries_filterMap_catalog]
  induction current saved with
  | nil => rfl
  | cons document rest ih =>
    cases hmetadata : document.metadata with
    | none =>
      rw [List.filterMap_cons_none (by simp [TargetDocument.rows, hmetadata]), ih,
        List.filterMap_cons_none hmetadata]
    | some m =>
      have hrow : (document.rows.2.map fun row => (document.reference.path, row)) =
          some (document.reference.path, MetadataRow.ofMetadata m) := by
        simp [TargetDocument.rows, hmetadata]
      simp only [List.filterMap_cons, hrow, hmetadata]
      cases htest : test (.ofMetadata m) with
      | true =>
        simp only [List.filter_cons, htest, ↓reduceIte]
        rw [List.mapM_cons, ih, MetadataRow.decode_ofMetadata]
        rfl
      | false =>
        simp only [List.filter_cons, htest, Bool.false_eq_true, ↓reduceIte]
        exact ih

end Store

/-! ### Every history -/

/-- **A store keeps the last document of each reference.** After any sequence of operations on a new
store, asking for a reference gives the document that was saved last under it, as it was saved; the
count is that of the references; and a search gives the metadata of those last documents whose key
is the same in lower case, in byte order of the references. -/
theorem documents_are_last_saved (operations : List StoreOperation) :
    let (_, store) := performAll operations .empty
    let saved := operations.flatMap StoreOperation.saved
    (∀ reference, store.getDocument reference = .ok (lastSaved saved reference)) ∧
      store.documentCount = (saved.map (·.reference)).eraseDups.length ∧
      ∃ documents : List TargetDocument,
        (documents.Pairwise fun a b =>
          Text.bytes a.reference.path < Text.bytes b.reference.path) ∧
        (∀ document, document ∈ documents ↔
          lastSaved saved document.reference = some document) ∧
        (∀ key, store.findByKey key = .ok ((documents.filterMap (·.metadata)).filter fun m =>
          Text.lowercase m.key = Text.lowercase key)) ∧
        ∀ spaceKey, store.findBySpace spaceKey =
          .ok ((documents.filterMap (·.metadata)).filter fun m =>
            Text.lowercase m.spaceKey = Text.lowercase spaceKey) := by
  have h := performAll_sameDocuments operations .empty
  generalize performAll operations .empty = outcome at h ⊢
  obtain ⟨events, store⟩ := outcome
  change store.SameDocuments _ at h
  show let saved := operations.flatMap StoreOperation.saved; _
  intro saved
  refine ⟨?_, ?_, current saved, ?_, mem_current_iff saved, ?_, ?_⟩
  · intro reference
    rw [h.getDocument, Store.getDocument_saveAll]
  · rw [h.documentCount, Store.documentCount_saveAll, length_current]
  · exact (current_ordered saved).imp Text.bytes_lt_bytes
  · intro key
    rw [Store.findByKey, h.findMetadata, Store.findMetadata_saveAll]
    simp only [MetadataRow.ofMetadata, MigrationMetadata.lowerKey_eq]
    rfl
  · intro spaceKey
    rw [Store.findBySpace, h.findMetadata, Store.findMetadata_saveAll]
    simp only [MetadataRow.ofMetadata, MigrationMetadata.lowerSpaceKey_eq]
    rfl

end SpaceMigration
