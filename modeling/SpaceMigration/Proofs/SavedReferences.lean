import Mathlib.Data.List.Nodup
import SpaceMigration.Proofs.Answers
import SpaceMigration.Proofs.ExportContents
import SpaceMigration.Proofs.Faults
import SpaceMigration.Proofs.References
import SpaceMigration.Proofs.Stretches

/-!
# Where a run saves

A run saves each document of its spaces at most once, below the target of the space, whatever fails
on the way (`RunTranscript.savedReferences_sublist`). With the default answer that is the child of a
child of one root, so two documents meet at one reference only if their names are ambiguous there.

Ambiguous names exist, and a run over them saves one document over another
(`run_saves_twice_below_backslash`). Their keys end in a backslash.

## Main definitions

* `savedReferences` — the references of the documents that the calls of a run save
* `MigrationJob.listedNames` — the documents that a job finds in an export

## Main results

* `MigrationJob.run_saves_distinct_references` — no document overwrites another, unless their names
  are ambiguous
-/

namespace SpaceMigration

open EntityReference (Ambiguous)

/-! ### Reading from an export -/

/-- What the call read, if it read something, stands in the export. -/
def Call.ReadsFrom (source : Export) : Call → Prop
  | .list spaceKey (.ok documentIds) => source.list spaceKey = .ok documentIds
  | .load spaceKey documentId (.ok document) => source.load spaceKey documentId = .ok document
  | _ => True

/-- Faults may keep a job from reading, but what it reads stands in the export. -/
theorem Host.Answers.readsFrom {m : Type → Type} [Monad m] {σ : Type} [Stateful m σ]
    {source : Export} {registry : Registry} {clock : m Timestamp} {isCancelled : m Bool}
    {save : TargetDocument → m (Except MigrationError Unit)} {faults : List Fault}
    {before after : Bool × σ} {call : Call}
    (h : ((Host.ofExport source registry clock isCancelled save).disturbed faults).Answers before
      call after) : call.ReadsFrom source := by
  have hpure {α : Type} {a b : α} {s t : σ} (h : Stateful.exec (pure a : m α) s = (b, t)) :
      a = b := by
    rw [Stateful.exec_pure] at h
    exact congrArg Prod.fst h
  cases call with
  | list spaceKey result =>
    cases result with
    | error e => trivial
    | ok documentIds => exact hpure (h.of_disturbed (by simp) rfl)
  | load spaceKey documentId result =>
    cases result with
    | error e => trivial
    | ok document => exact hpure (h.of_disturbed (by simp) rfl)
  | _ => trivial

/-! ### What the calls of a run save -/

/-- The references of the documents that the calls save, or try to save. -/
def savedReferences (calls : List Call) : List EntityReference :=
  (calls.filterMap Call.savedDocument?).map (·.reference)

theorem savedReferences_append (calls more : List Call) :
    savedReferences (calls ++ more) = savedReferences calls ++ savedReferences more := by
  rw [savedReferences, List.filterMap_append, List.map_append]
  rfl

section

variable {source : Export} {calls : List Call} {target : EntityReference}

theorem BlocksTranscript.savedReferences_eq_nil {blocks : List ContentBlock}
    {r : Except MigrationError (String × Tally)} (h : BlocksTranscript blocks calls r) :
    savedReferences calls = [] := by
  rw [savedReferences, h.saves, List.map_nil]

theorem DocumentTranscript.savedReferences_sublist {spaceKey documentId : String}
    {r : Except MigrationError Tally} (h : DocumentTranscript spaceKey target documentId calls r)
    (hcalls : ∀ call ∈ calls, call.ReadsFrom source) :
    (savedReferences calls).Sublist [target.child documentId] := by
  cases h with
  | notLoaded e => exact List.nil_sublist _
  | @notConverted document calls e h =>
    have hnone : savedReferences (.load spaceKey documentId (.ok document) :: calls) = [] :=
      h.savedReferences_eq_nil
    rw [hnone]
    exact List.nil_sublist _
  | @saved document calls content tally h result =>
    have hload : source.load spaceKey documentId = .ok document := hcalls _ List.mem_cons_self
    have hone : savedReferences (.load spaceKey documentId (.ok document) ::
        (calls ++ [.save (document.migrated spaceKey target content) result])) =
          [target.child document.id] := by
      change savedReferences (calls ++ _) = _
      rw [savedReferences_append, h.savedReferences_eq_nil]
      rfl
    rw [hone, Export.id_of_load hload]

theorem DocumentsTranscript.savedReferences_sublist {jobId spaceKey : String}
    {documentIds : List String} {p p' : Progress} {r : Except MigrationError (Nat × Nat)}
    (h : DocumentsTranscript jobId spaceKey target documentIds calls p r p')
    (hcalls : ∀ call ∈ calls, call.ReadsFrom source) :
    (savedReferences calls).Sublist (documentIds.map target.child) := by
  have hdocument {documentId : String} {rest : List String} {calls more : List Call}
      {r : Except MigrationError Tally}
      (h : DocumentTranscript spaceKey target documentId calls r)
      (hcalls : ∀ call ∈ calls, call.ReadsFrom source)
      (hmore : (savedReferences more).Sublist (rest.map target.child)) :
      (savedReferences (.check false :: (calls ++ more))).Sublist
        ((documentId :: rest).map target.child) := by
    change (savedReferences (calls ++ more)).Sublist _
    rw [savedReferences_append, List.map_cons, ← List.singleton_append]
    exact (h.savedReferences_sublist hcalls).append hmore
  induction h with
  | nil => exact List.nil_sublist _
  | cancelled => exact List.nil_sublist _
  | @aborted documentId rest calls e p h he =>
    have hnone : (savedReferences []).Sublist (rest.map target.child) := List.nil_sublist _
    have hlast := hdocument h (List.forall_mem_cons.1 hcalls).2 hnone
    rwa [List.append_nil] at hlast
  | migrated now h _ ih =>
    obtain ⟨hfirst, hrest⟩ := List.forall_mem_append.1 (List.forall_mem_cons.1 hcalls).2
    exact hdocument h hfirst (ih hrest)
  | failed now h he _ ih =>
    obtain ⟨hfirst, hrest⟩ := List.forall_mem_append.1 (List.forall_mem_cons.1 hcalls).2
    exact hdocument h hfirst (ih hrest)

theorem SpaceTranscript.savedReferences_sublist {jobId : String} {space : SpaceSelection}
    {p p' : Progress} {r : Except MigrationError Unit}
    (h : SpaceTranscript jobId space target calls p r p')
    (hcalls : ∀ call ∈ calls, call.ReadsFrom source) :
    (savedReferences calls).Sublist ((source.documentIds space.key).map target.child) := by
  have hlisted {documentIds : List String} {more : List Call} {p p' : Progress}
      {r : Except MigrationError (Nat × Nat)}
      (h : DocumentsTranscript jobId space.key target documentIds more p r p')
      (hcalls : ∀ call ∈ .check false :: .list space.key (.ok documentIds) :: more,
        call.ReadsFrom source) :
      (savedReferences (.check false :: .list space.key (.ok documentIds) :: more)).Sublist
        ((source.documentIds space.key).map target.child) := by
    obtain ⟨hlist, hmore⟩ := List.forall_mem_cons.1 (List.forall_mem_cons.1 hcalls).2
    rw [Export.documentIds_of_list hlist]
    change (savedReferences more).Sublist _
    exact h.savedReferences_sublist hmore
  cases h with
  | cancelled p => exact List.nil_sublist _
  | aborted p he => exact List.nil_sublist _
  | notListed p now he => exact List.nil_sublist _
  | interrupted h => exact hlisted h hcalls
  | finished now h => exact hlisted h hcalls

theorem SpacesTranscript.savedReferences_sublist {jobId : String}
    {entries : List (SpaceSelection × EntityReference)} {p p' : Progress}
    {r : Except MigrationError Unit} (h : SpacesTranscript jobId entries calls p r p')
    (hcalls : ∀ call ∈ calls, call.ReadsFrom source) :
    (savedReferences calls).Sublist
      (entries.flatMap fun entry => (source.documentIds entry.1.key).map entry.2.child) := by
  induction h with
  | nil => exact List.nil_sublist _
  | stopped h =>
    rw [List.flatMap_cons]
    exact (h.savedReferences_sublist hcalls).trans (List.sublist_append_left _ _)
  | next h _ ih =>
    obtain ⟨hspace, hrest⟩ := List.forall_mem_append.1 hcalls
    rw [savedReferences_append, List.flatMap_cons]
    exact (h.savedReferences_sublist hspace).append (ih hrest)

/-- However a run ends, it has saved documents of its spaces, each below the target of its space, in
order and none of them twice. -/
theorem RunTranscript.savedReferences_sublist {job : MigrationJob} {snapshot : JobSnapshot}
    (h : RunTranscript job calls snapshot) (hcalls : ∀ call ∈ calls, call.ReadsFrom source) :
    (savedReferences calls).Sublist (job.effectiveAnswer.entries.flatMap fun entry =>
      (source.documentIds entry.1.key).map entry.2.child) := by
  cases h with
  | cancelled startedAt now finishedAt => exact List.nil_sublist _
  | aborted startedAt opened now finishedAt h =>
    exact h.savedReferences_sublist (List.forall_mem_cons.1 hcalls).2
  | finished startedAt opened now finishedAt h =>
    exact h.savedReferences_sublist (List.forall_mem_cons.1 hcalls).2

end

/-! ### Names below the root -/

/-- The documents that the job finds in the export: the key of their space, and their identifier. -/
def MigrationJob.listedNames (job : MigrationJob) (source : Export) : List (String × String) :=
  job.question.keys.flatMap fun spaceKey =>
    (source.documentIds spaceKey).map fun documentId => (spaceKey, documentId)

/-- With the default answer, a document is saved as a child of a child of the root. -/
theorem MigrationJob.flatMap_effectiveAnswer {job : MigrationJob} (h : job.answer = none)
    (source : Export) :
    (job.effectiveAnswer.entries.flatMap fun entry =>
        (source.documentIds entry.1.key).map entry.2.child) =
      (job.listedNames source).map fun name =>
        (job.request.targetRoot.child name.1).child name.2 := by
  rw [effectiveAnswer, h, Option.getD_none, SpaceQuestion.defaultAnswer, List.flatMap_map,
    listedNames, SpaceQuestion.keys, List.flatMap_map, List.map_flatMap]
  simp only [List.map_map]
  rfl

/-- Whatever fails on the way, and wherever it is cancelled, a job with the default answer saves
documents that it has listed, each as a child of a child of the root, and none of them twice. -/
theorem MigrationJob.savedReferences_sublist {σ : Type} (job : MigrationJob)
    (hanswer : job.answer = none) (source : Export) (registry : Registry) (faults : List Fault)
    (clock : StateM σ Timestamp) (isCancelled : StateM σ Bool)
    (save : TargetDocument → StateM σ (Except MigrationError Unit)) (cancelled : Bool) (world : σ) :
    let (((_, calls), _), _) := (((job.run ((Host.ofExport source registry clock isCancelled
      save).disturbed faults).observed).run []).run cancelled).run world
    (savedReferences calls).Sublist ((job.listedNames source).map fun name =>
      (job.request.targetRoot.child name.1).child name.2) := by
  have h := job.disturbed_transcript (Host.ofExport source registry clock isCancelled save) faults
    cancelled world
  generalize StateT.run _ world = outcome at h ⊢
  obtain ⟨⟨⟨snapshot, calls⟩, token⟩, world'⟩ := outcome
  obtain ⟨h, hpath⟩ := h
  have hreads : ∀ call ∈ calls, call.ReadsFrom source := by
    intro call hc
    obtain ⟨_, _, answer⟩ := hpath.answered hc
    exact answer.readsFrom
  rw [← job.flatMap_effectiveAnswer hanswer source]
  exact h.savedReferences_sublist hreads

theorem MigrationJob.nodup_listedNames (job : MigrationJob) {source : Export}
    (hunique : ∀ spaceKey space, source.get? spaceKey = some space →
      (space.documents.map (·.id)).Nodup) : (job.listedNames source).Nodup := by
  have hids (spaceKey : String) : (source.documentIds spaceKey).Nodup := by
    rw [Export.documentIds]
    split
    · exact List.nodup_nil
    · next space hspace => exact hunique spaceKey space hspace
  rw [listedNames, List.nodup_flatMap]
  constructor
  · intro spaceKey _
    exact (hids spaceKey).map fun _ _ hsame => (Prod.mk.inj hsame).2
  · refine (SpaceQuestion.nodup_keys_new job.request.spaces).imp ?_
    intro spaceKey spaceKey' hne name hname hname'
    obtain ⟨_, -, rfl⟩ := List.mem_map.1 hname
    obtain ⟨_, -, hsame⟩ := List.mem_map.1 hname'
    exact hne (Prod.mk.inj hsame).1.symm

/-! ### Distinct references -/

/-- **No document of a run overwrites another, unless their names are ambiguous.** Whatever fails on
the way, a run with the default answer over an export with unique identifiers saves documents that
it has listed, none twice, and saves them at pairwise distinct references exactly if no two of their
names are ambiguous. -/
theorem MigrationJob.run_saves_distinct_references {σ : Type} (job : MigrationJob)
    (hanswer : job.answer = none) (source : Export)
    (hunique : ∀ spaceKey space, source.get? spaceKey = some space →
      (space.documents.map (·.id)).Nodup)
    (registry : Registry) (faults : List Fault) (clock : StateM σ Timestamp)
    (isCancelled : StateM σ Bool) (save : TargetDocument → StateM σ (Except MigrationError Unit))
    (cancelled : Bool) (world : σ) :
    let host := (Host.ofExport source registry clock isCancelled save).disturbed faults
    let (((_, calls), _), _) := (((job.run host.observed).run []).run cancelled).run world
    ∃ names : List (String × String), names.Sublist (job.listedNames source) ∧ names.Nodup ∧
      savedReferences calls = names.map (fun name =>
        (job.request.targetRoot.child name.1).child name.2) ∧
      ((savedReferences calls).Nodup ↔ ∀ a ∈ names, ∀ b ∈ names, ¬ Ambiguous a b) := by
  intro host
  have hsub := job.savedReferences_sublist hanswer source registry faults clock isCancelled save
    cancelled world
  generalize (((job.run host.observed).run []).run cancelled).run world = outcome at hsub ⊢
  obtain ⟨⟨⟨snapshot, calls⟩, token⟩, world'⟩ := outcome
  obtain ⟨names, hnames, hsaved⟩ := List.sublist_map_iff.1 hsub
  have hnodup : names.Nodup := hnames.nodup (job.nodup_listedNames hunique)
  refine ⟨names, hnames, hnodup, hsaved, ?_⟩
  rw [hsaved]
  constructor
  · intro hdistinct a ha b hb hab
    exact hab.ne (List.inj_on_of_nodup_map hdistinct ha hb (hab.child_child_eq _))
  · intro hclear
    refine hnodup.map_on ?_
    intro a ha b hb hsame
    obtain hsame | hab | hba := (EntityReference.child_child_eq_iff _ _ _ _ _).1 hsame
    · exact hsame
    · exact absurd hab (hclear a ha b hb)
    · exact absurd hba (hclear b hb a ha)

/-- Of two spaces with one document each, every document has its own reference. -/
theorem run_saves_plain_names_apart :
    let source := Export.ofSpaces [⟨"ENG", "Engineering", [⟨"home", "Home", [], "", []⟩]⟩,
      ⟨"ENG.ops", "Operations", [⟨"home", "Home", [], "", []⟩]⟩]
    let job := MigrationJob.new "job-1"
      ⟨⟨"Audit"⟩, ⟨"Migrated"⟩, [⟨"ENG", "Engineering"⟩, ⟨"ENG.ops", "Operations"⟩]⟩
    let host : Host (StateT Bool (StateM Unit)) := (Host.ofExport source .empty (pure .epoch)
      (pure false) fun _ => pure (.ok ())).disturbed []
    let (((_, calls), _), _) := (((job.run host.observed).run []).run false).run ()
    job.answer = none ∧
      (∀ spaceKey space, source.get? spaceKey = some space →
        (space.documents.map (·.id)).Nodup) ∧
      (savedReferences calls).Nodup := by
  intro source job host
  have hanswer : job.answer = none := rfl
  have hunique : ∀ spaceKey space, source.get? spaceKey = some space →
      (space.documents.map (·.id)).Nodup := by
    intro spaceKey space hspace
    have hall : ∀ entry ∈ source.entries, (entry.2.documents.map (·.id)).Nodup := by decide
    exact hall (spaceKey, space) ((source.mem_entries_iff spaceKey space).2 hspace)
  obtain ⟨names, hnames, -, -, hiff⟩ := job.run_saves_distinct_references hanswer source hunique
    .empty [] (pure .epoch) (pure false) (fun _ => pure (.ok ())) false ()
  refine ⟨hanswer, hunique, hiff.2 ?_⟩
  intro a ha b _
  refine EntityReference.not_ambiguous_of_getLast? ?_
  have hkeys : ∀ name ∈ job.listedNames source, name.1.toList.getLast? ≠ some '\\' := by decide
  exact hkeys a (hnames.subset ha)

/-- **A document can overwrite another**: a key that ends in a backslash takes the dot of the next
separator along. -/
theorem run_saves_twice_below_backslash :
    let source := Export.ofSpaces [⟨"a\\", "A", [⟨"b.c", "B", [], "", []⟩]⟩,
      ⟨"a.b\\", "A", [⟨"c", "C", [], "", []⟩]⟩]
    let job := MigrationJob.new "job-1" ⟨⟨"Audit"⟩, ⟨"Migrated"⟩, [⟨"a\\", "A"⟩, ⟨"a.b\\", "B"⟩]⟩
    let host : Host (StateT Bool (StateM Unit)) := (Host.ofExport source .empty (pure .epoch)
      (pure false) fun _ => pure (.ok ())).disturbed []
    let (((snapshot, calls), _), _) := (((job.run host.observed).run []).run false).run ()
    (∀ entry ∈ source.entries, (entry.2.documents.map (·.id)).Nodup) ∧ job.answer = none ∧
      snapshot.state = .finishedSuccess ∧
      savedReferences calls = [⟨"Migrated.a\\.b\\.c"⟩, ⟨"Migrated.a\\.b\\.c"⟩] := by
  refine And.intro ?_ (And.intro ?_ (And.intro ?_ ?_)) <;> decide +kernel

end SpaceMigration
