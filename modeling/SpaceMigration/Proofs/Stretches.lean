import SpaceMigration.Proofs.Ending

/-!
# Stretches of a run

Every run goes in stretches. It looks whether it is cancelled and then makes the calls of one
stretch, which are none, a listing, or those of one document; then it looks again. A look that finds
the run cancelled is its last call.

Levels do not show in a paced list of calls, so what has to be said about the calls around a look is
said once, and not for the documents, the spaces and the run again.

## Main definitions

* `Stretch`, `Paced` — the calls between two looks, and calls that go in stretches

## Main results

* `RunTranscript.paced` — every run goes in stretches
* `Paced.split` — the stretch in which a call is made, and what follows it
-/

namespace SpaceMigration

/-- The calls between two looks of a run that migrates the entries. -/
inductive Stretch (entries : List (SpaceSelection × EntityReference)) : List Call → Prop
  | nil : Stretch entries []
  | list {entry} (hentry : entry ∈ entries) (result : Except MigrationError (List String)) :
      Stretch entries [.list entry.1.key result]
  | document {entry documentId calls r} (hentry : entry ∈ entries)
      (h : DocumentTranscript entry.1.key entry.2 documentId calls r) : Stretch entries calls

/-- The calls go in stretches, with a look before each. -/
inductive Paced (entries : List (SpaceSelection × EntityReference)) : List Call → Prop
  | nil : Paced entries []
  | cancelled : Paced entries [.check true]
  | next {calls more} (h : Stretch entries calls) (hrest : Paced entries more) :
      Paced entries (.check false :: (calls ++ more))

section

variable {entries : List (SpaceSelection × EntityReference)} {calls more : List Call}

theorem Stretch.paced (h : Stretch entries calls) : Paced entries (.check false :: calls) := by
  have hlast := Paced.next h .nil
  rwa [List.append_nil] at hlast

theorem Paced.append (h : Paced entries calls) (hgo : .check true ∉ calls)
    (h' : Paced entries more) : Paced entries (calls ++ more) := by
  induction h with
  | nil => exact h'
  | cancelled => simp at hgo
  | next h _ ih =>
    rw [List.cons_append, List.append_assoc]
    exact .next h (ih fun hmem => hgo (List.mem_cons_of_mem _ (List.mem_append_right _ hmem)))

/-- A call that is not a look is made in a stretch. -/
theorem Paced.exists_stretch (h : Paced entries calls) {call : Call} (hc : call ∈ calls) :
    (∃ b, call = .check b) ∨
      ∃ stretch, Stretch entries stretch ∧ call ∈ stretch ∧ stretch ⊆ calls := by
  induction h with
  | nil => simp at hc
  | cancelled => exact .inl ⟨true, List.mem_singleton.1 hc⟩
  | @next calls more h _ ih =>
    rcases List.mem_cons.1 hc with rfl | hc
    · exact .inl ⟨false, rfl⟩
    · rcases List.mem_append.1 hc with hc | hc
      · exact .inr ⟨calls, h, hc, fun _ hmem => .tail _ (List.mem_append_left _ hmem)⟩
      · refine (ih hc).imp_right ?_
        rintro ⟨stretch, hstretch, hmem, hsub⟩
        exact ⟨stretch, hstretch, hmem, fun _ hc => .tail _ (List.mem_append_right _ (hsub hc))⟩

/-- A part of a run that is not stopped never finds the run cancelled. -/
theorem StopsAt.check_true_notMem {jobId : String} (h : StopsAt jobId none calls) :
    .check true ∉ calls :=
  fun hmem => h _ hmem (.inl rfl)

/-! ### Level by level -/

theorem DocumentsTranscript.paced {jobId : String} {space : SpaceSelection}
    {target : EntityReference} {documentIds : List String} {p p' : Progress}
    {r : Except MigrationError (Nat × Nat)} (hentry : (space, target) ∈ entries)
    (h : DocumentsTranscript jobId space.key target documentIds calls p r p') :
    Paced entries calls := by
  induction h with
  | nil => exact .nil
  | cancelled => exact .cancelled
  | aborted p h he => exact (Stretch.document hentry h).paced
  | migrated now h _ ih => exact .next (.document hentry h) ih
  | failed now h he _ ih => exact .next (.document hentry h) ih

theorem SpaceTranscript.paced {jobId : String} {space : SpaceSelection} {target : EntityReference}
    {p p' : Progress} {r : Except MigrationError Unit} (hentry : (space, target) ∈ entries)
    (h : SpaceTranscript jobId space target calls p r p') : Paced entries calls := by
  cases h with
  | cancelled => exact .cancelled
  | aborted p he => exact (Stretch.list hentry _).paced
  | notListed p now he => exact (Stretch.list hentry _).paced
  | interrupted h => exact .next (.list hentry _) (h.paced hentry)
  | finished now h => exact .next (.list hentry _) (h.paced hentry)

theorem SpacesTranscript.paced {jobId : String} {rest : List (SpaceSelection × EntityReference)}
    {p p' : Progress} {r : Except MigrationError Unit} (hrest : rest ⊆ entries)
    (h : SpacesTranscript jobId rest calls p r p') : Paced entries calls := by
  induction h with
  | nil => exact .nil
  | stopped h => exact h.paced (hrest List.mem_cons_self)
  | next h _ ih =>
    obtain ⟨hentry, hrest⟩ := List.cons_subset.1 hrest
    have hgo : StopsAt jobId none _ := h.stopsAt
    exact (h.paced hentry).append hgo.check_true_notMem (ih hrest)

/-- **Every run goes in stretches**, for the entries of its answer. -/
theorem RunTranscript.paced {job : MigrationJob} {snapshot : JobSnapshot}
    (h : RunTranscript job calls snapshot) : Paced job.effectiveAnswer.entries calls := by
  cases h with
  | cancelled => exact .cancelled
  | aborted startedAt opened now finishedAt h => exact .next .nil (h.paced (List.Subset.refl _))
  | finished startedAt opened now finishedAt h => exact .next .nil (h.paced (List.Subset.refl _))

/-! ### The calls of a stretch -/

/-- The call goes on with a document that is loaded: it converts or saves. -/
def Call.goesOn : Call → Bool
  | .convert _ _ => true
  | .save _ _ => true
  | _ => false

theorem BlocksTranscript.convert_of_mem {blocks : List ContentBlock}
    {r : Except MigrationError (String × Tally)} (h : BlocksTranscript blocks calls r) :
    ∀ call ∈ calls, ∃ o result, call = .convert o result := by
  induction h with
  | nil => simp
  | text content _ ih => exact ih
  | failed o e => simp
  | replaced o replacement _ ih => exact List.forall_mem_cons.2 ⟨⟨_, _, rfl⟩, ih⟩
  | kept o _ ih => exact List.forall_mem_cons.2 ⟨⟨_, _, rfl⟩, ih⟩

theorem BlocksTranscript.goesOn {blocks : List ContentBlock}
    {r : Except MigrationError (String × Tally)} (h : BlocksTranscript blocks calls r) :
    ∀ call ∈ calls, call.goesOn = true := by
  intro call hc
  obtain ⟨o, result, rfl⟩ := h.convert_of_mem call hc
  rfl

theorem BlocksTranscript.saves {blocks : List ContentBlock}
    {r : Except MigrationError (String × Tally)} (h : BlocksTranscript blocks calls r) :
    calls.filterMap Call.savedDocument? = [] := by
  rw [List.filterMap_eq_nil_iff]
  intro call hc
  obtain ⟨o, result, rfl⟩ := h.convert_of_mem call hc
  rfl

/-- A document is loaded first. What follows goes on with it and saves it at most, converted and
under its own identifier. -/
theorem DocumentTranscript.exists_load {spaceKey documentId : String} {target : EntityReference}
    {r : Except MigrationError Tally} (h : DocumentTranscript spaceKey target documentId calls r) :
    ∃ loaded rest, calls = .load spaceKey documentId loaded :: rest ∧
      (∀ call ∈ rest, call.goesOn = true) ∧
      (rest.filterMap Call.savedDocument? = [] ∨ ∃ document content, loaded = .ok document ∧
        rest.filterMap Call.savedDocument? = [document.migrated spaceKey target content]) := by
  cases h with
  | notLoaded e => exact ⟨_, [], rfl, by simp, .inl rfl⟩
  | @notConverted document calls e h => exact ⟨_, calls, rfl, h.goesOn, .inl h.saves⟩
  | @saved document calls content tally h result =>
    refine ⟨_, _, rfl, List.forall_mem_append.2 ⟨h.goesOn, by simp [Call.goesOn]⟩,
      .inr ⟨document, content, rfl, ?_⟩⟩
    rw [List.filterMap_append, h.saves]
    rfl

/-- A call behind which no look finds the run going on is the last look, or it is made in a stretch,
and what follows it is the rest of the stretch and one look at most. -/
theorem Paced.split {before late : List Call} {hit : Call}
    (h : Paced entries (before ++ hit :: late)) (hhit : hit ≠ .check false)
    (hlate : .check false ∉ late) :
    (hit = .check true ∧ late = []) ∨ ∃ front rest, Stretch entries (front ++ hit :: rest) ∧
      (late = rest ∨ late = rest ++ [.check true]) := by
  generalize hall : before ++ hit :: late = all at h
  induction h generalizing before with
  | nil => simp at hall
  | cancelled =>
    cases before with
    | nil => exact .inl (List.cons.inj hall)
    | cons first before => simp at hall
  | @next calls more h hrest ih =>
    cases before with
    | nil => exact absurd (List.cons.inj hall).1 hhit
    | cons first before =>
      obtain ⟨rest, hcalls, htail⟩ | ⟨middle, -, hmore⟩ :=
        List.append_eq_append_iff.1 (List.cons.inj hall).2
      · cases rest with
        | nil => exact @ih [] htail
        | cons head rest =>
          obtain ⟨rfl, rfl⟩ := List.cons.inj htail
          refine .inr ⟨before, rest, hcalls ▸ h, ?_⟩
          -- Behind the stretch comes the next look, which finds the run cancelled.
          cases hrest with
          | nil => exact .inl (List.append_nil rest)
          | cancelled => exact .inr rfl
          | next => simp at hlate
      · exact ih hmore.symm

end

end SpaceMigration
