import SpaceMigration.Proofs.Recovery

/-!
# The order of the spaces

Answers that name the same spaces in different orders make a job process them in different orders.
What the store holds afterwards is the same, as long as no two of the saved documents meet at one
reference: then each reference has at most one document, and it does not matter when that document
is saved (`Store.saveAll_perm`).

Without faults, what a run saves for a space and what it counts there follows from the space alone
(`TurnsRun.of_steady`). So the runs save the same documents and have the same results, each in
its own order.

## Main results

* `Store.saveAll_perm` — saves at distinct references commute
* `MigrationJob.run_in_any_order` — the order of an answer does not show in the store
-/

namespace SpaceMigration

open Stateful (exec)

/-! ### Saves at distinct references -/

/-- Among documents with distinct references, the last one with a reference is the only one. -/
theorem lastSaved_eq_some_iff {saved : List TargetDocument}
    (h : (saved.map (·.reference)).Nodup) (reference : EntityReference)
    (document : TargetDocument) :
    lastSaved saved reference = some document ↔
      document ∈ saved ∧ document.reference = reference := by
  constructor
  · intro hlast
    exact ⟨List.mem_reverse.1 (List.mem_of_find?_eq_some hlast), reference_of_lastSaved hlast⟩
  · rintro ⟨hmem, rfl⟩
    have hsome := (isSome_lastSaved_iff saved document.reference).2 (List.mem_map_of_mem hmem)
    obtain ⟨last, hlast⟩ := Option.isSome_iff_exists.1 hsome
    have hlastmem : last ∈ saved := List.mem_reverse.1 (List.mem_of_find?_eq_some hlast)
    rw [hlast, List.inj_on_of_nodup_map h hlastmem hmem (reference_of_lastSaved hlast)]

theorem lastSaved_perm {saved more : List TargetDocument} (hperm : saved.Perm more)
    (h : (saved.map (·.reference)).Nodup) (reference : EntityReference) :
    lastSaved saved reference = lastSaved more reference := by
  have h' : (more.map (·.reference)).Nodup := (hperm.map _).nodup_iff.1 h
  refine Option.ext ?_
  intro document
  rw [lastSaved_eq_some_iff h, lastSaved_eq_some_iff h', hperm.mem_iff]

/-- **Saves at distinct references commute.** -/
theorem Store.saveAll_perm {documents more : List TargetDocument} (hperm : documents.Perm more)
    (h : (documents.map (·.reference)).Nodup) (store : Store) :
    (store.saveAll documents).SameDocuments (store.saveAll more) := by
  refine .of_rowsAt ?_
  intro reference
  rw [rowsAt_saveAll, rowsAt_saveAll, lastSaved_perm hperm h]

/-! ### Runs without faults, in two orders -/

/-- The targets of a steady run with a result are those of the spaces that can be listed, in
whatever order the spaces have ended. -/
theorem JobSnapshot.migratedSpaces_of_steady {snapshot : JobSnapshot} {source : SteadySource}
    (h : snapshot.results.Perm (snapshot.answer.entries.filterMap source.resultFor?)) :
    snapshot.migratedSpaces = (snapshot.answer.entries.filter fun entry =>
      (source.list entry.1.key).isSome).map (·.2) := by
  rw [migratedSpaces]
  refine congrArg _ (List.filter_congr ?_)
  intro entry hentry
  rw [Bool.eq_iff_iff, List.any_eq_true]
  have hlisted : (source.result? entry.1 entry.2).isSome = (source.list entry.1.key).isSome :=
    Option.isSome_map
  constructor
  · rintro ⟨result, hresult, hkey⟩
    obtain ⟨other, -, hother⟩ := List.mem_filterMap.1 (h.mem_iff.1 hresult)
    change source.result? other.1 other.2 = some result at hother
    rw [SteadySource.space_of_result? hother, beq_iff_eq] at hkey
    rw [← hkey, ← Option.isSome_map, ← SteadySource.result?, hother]
    rfl
  · intro hlist
    obtain ⟨result, hresult⟩ := Option.isSome_iff_exists.1 (hlisted.trans hlist)
    refine ⟨result, h.mem_iff.2 (List.mem_filterMap.2 ⟨entry, hentry, hresult⟩), ?_⟩
    rw [SteadySource.space_of_result? hresult, beq_self_eq_true]

theorem Export.isSome_toOption_list (source : Export) (spaceKey : String) :
    (source.list spaceKey).toOption.isSome = (source.get? spaceKey).isSome := by
  rw [list]
  cases source.get? spaceKey <;> rfl

/-- What a run without faults leaves in a store and in its snapshot. -/
theorem MigrationJob.run_faultFree_savingInto {σ : Type} (job : MigrationJob) (source : Export)
    (registry : Registry)
    (hregistry : ∀ o e, registry.convert o = .error e → e.isInfrastructure = false)
    (clock : StateM σ Timestamp) (store : Store) (world : σ) :
    let host := Host.ofExport source registry clock (pure false) fun _ => pure (.ok ())
    let steady := SteadySource.ofExport source registry
    let calls := (((job.run host.observed).run []).run world).1.2
    let after := (((job.run host.savingInto).run store).run world).1
    after.2 = store.saveAll (calls.filterMap Call.savedDocument?) ∧
      after.1.answer = job.effectiveAnswer ∧
      calls.filterMap Call.savedDocument? =
        (job.effectiveAnswer.entries.flatMap fun entry =>
          source.migrated registry entry.1.key entry.2) ∧
      after.1.results = job.effectiveAnswer.entries.filterMap fun entry =>
        steady.result? entry.1 entry.2 := by
  intro host steady calls after
  obtain ⟨hcourse, hpath⟩ := job.observed_turnsRun_nil host (world, ())
  have hcalls := hpath.faultFree fun _ _ => rfl
  obtain ⟨-, hanswer, -, hresults⟩ := hcourse.of_steady
    (fun call hc => (hcalls call hc).not_stops hregistry) fun call hc => (hcalls call hc).answeredBy
  rw [endOrder_nil, job.map_fst_spaces] at hresults
  have hrun : after = (_, store.saveAll (calls.filterMap Call.accepted?)) :=
    congrArg Prod.fst (job.run_savingInto host store (world, ()))
  rw [hrun]
  refine ⟨?_, hanswer, hcourse.saves_of_nil hregistry hcalls, hresults⟩
  exact congrArg store.saveAll (List.filterMap_congr fun call hc => (hcalls call hc).accepted?_eq)

/-- **The order of an answer does not show in the store.** Two answers that are permutations of each
other make a job process its spaces in two orders. Without faults, and if the documents saved in the
first order have pairwise distinct references, both runs leave a store that answers alike, have the
same results up to the order, and have migrated the spaces of the export to their targets, each in
the order of its own answer. -/
theorem MigrationJob.run_in_any_order {σ : Type} (job : MigrationJob) (answer answer' : SpaceAnswer)
    (hperm : answer.entries.Perm answer'.entries) (source : Export) (registry : Registry)
    (hregistry : ∀ o e, registry.convert o = .error e → e.isInfrastructure = false)
    (clock : StateM σ Timestamp) (world world' : σ) (store : Store) :
    let host := Host.ofExport source registry clock (pure false) fun _ => pure (.ok ())
    let first : MigrationJob := { job with answer := some answer }
    let second : MigrationJob := { job with answer := some answer' }
    let calls := (((first.run host.observed).run []).run world).1.2
    let after := (((first.run host.savingInto).run store).run world).1
    let after' := (((second.run host.savingInto).run store).run world').1
    let targets (answer : SpaceAnswer) : List EntityReference :=
      (answer.entries.filter fun entry => (source.get? entry.1.key).isSome).map (·.2)
    (savedReferences calls).Nodup →
      after.2.AnswersAlike after'.2 ∧
      after.1.results.Perm after'.1.results ∧
      after.1.migratedSpaces = targets answer ∧ after'.1.migratedSpaces = targets answer' ∧
      after.1.migratedSpaces.Perm after'.1.migratedSpaces := by
  intro host first second calls after after' targets hdistinct
  obtain ⟨hstore, hanswer, hsaved, hresults⟩ :=
    first.run_faultFree_savingInto source registry hregistry clock store world
  obtain ⟨hstore', hanswer', hsaved', hresults'⟩ :=
    second.run_faultFree_savingInto source registry hregistry clock store world'
  have hsame : (first.effectiveAnswer.entries).Perm second.effectiveAnswer.entries := hperm
  have htargets (snapshot : JobSnapshot) (answer : SpaceAnswer) (hanswer : snapshot.answer = answer)
      (hresults : snapshot.results = answer.entries.filterMap fun entry =>
        (SteadySource.ofExport source registry).result? entry.1 entry.2) :
      snapshot.migratedSpaces = targets answer := by
    rw [← hanswer] at hresults
    rw [JobSnapshot.migratedSpaces_of_steady (.of_eq hresults), hanswer]
    exact congrArg _ (List.filter_congr fun entry _ => source.isSome_toOption_list entry.1.key)
  have hmigrated := htargets after.1 answer hanswer hresults
  have hmigrated' := htargets after'.1 answer' hanswer' hresults'
  refine ⟨?_, ?_, hmigrated, hmigrated', ?_⟩
  · rw [hstore, hstore']
    refine (Store.saveAll_perm ?_ hdistinct store).answersAlike
    rw [hsaved, hsaved']
    exact hsame.flatMap_right _
  · rw [hresults, hresults']
    exact hsame.filterMap _
  · rw [hmigrated, hmigrated']
    exact (hperm.filter _).map _

/-- Two spaces in both orders. Each of them has a home page. -/
theorem run_in_both_orders_of_two_spaces :
    let source := Export.ofSpaces [⟨"ENG", "Engineering", [⟨"home", "Home", [], "", []⟩,
        ⟨"news", "News", [], "", []⟩]⟩, ⟨"OPS", "Operations", [⟨"home", "Home", [], "", []⟩]⟩]
    let engineering : SpaceSelection × EntityReference := (⟨"ENG", "Engineering"⟩, ⟨"Eng"⟩)
    let operations : SpaceSelection × EntityReference := (⟨"OPS", "Operations"⟩, ⟨"Ops"⟩)
    let job (entries : List (SpaceSelection × EntityReference)) : MigrationJob :=
      { MigrationJob.new "job-1" ⟨⟨"Audit"⟩, ⟨"Migrated"⟩, [engineering.1, operations.1]⟩ with
        answer := some ⟨entries⟩ }
    let host : Host (StateM Unit) :=
      .ofExport source .empty (pure .epoch) (pure false) fun _ => pure (.ok ())
    let calls := ((((job [engineering, operations]).run host.observed).run []).run ()).1.2
    let after (entries : List (SpaceSelection × EntityReference)) :=
      ((((job entries).run host.savingInto).run .empty).run ()).1
    [engineering, operations].Perm [operations, engineering] ∧
      (∀ o e, Registry.convert .empty o = .error e → e.isInfrastructure = false) ∧
      (savedReferences calls).Nodup ∧
      (after [engineering, operations]).2.AnswersAlike (after [operations, engineering]).2 ∧
      (after [operations, engineering]).1.migratedSpaces = [⟨"Ops"⟩, ⟨"Eng"⟩] := by
  intro source engineering operations job host calls after
  have hperm : [engineering, operations].Perm [operations, engineering] := .swap _ _ _
  have hdistinct : (savedReferences calls).Nodup := by decide +kernel
  obtain ⟨halike, -, -, htargets, -⟩ := (job []).run_in_any_order
    ⟨[engineering, operations]⟩ ⟨[operations, engineering]⟩ hperm source .empty
    not_isInfrastructure_of_empty (pure .epoch) () () .empty hdistinct
  exact ⟨hperm, not_isInfrastructure_of_empty, hdistinct, halike,
    htargets.trans (by decide +kernel)⟩

end SpaceMigration
