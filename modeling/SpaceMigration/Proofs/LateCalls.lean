import SpaceMigration.Proofs.Cancellation
import SpaceMigration.Proofs.Interruption
import SpaceMigration.Proofs.Stretches

/-!
# Calls after a cancellation

A run that is cancelled stops between two documents. Whatever call the cancellation comes during, no
space is listed and no document is loaded any more. A document that is loaded by then is still
converted and saved, and it is the only one that can be.

The host is any host, which may fail calls or cancel the job as well; the cancellation at the call
number `n` is put on top of it.

## Main definitions

* `SavedBehind` — what may be saved after the call during which a run is cancelled

## Main results

* `Host.Path.look_of_interrupted` — no look misses the cancellation
* `MigrationJob.run_stops_between_documents` — the calls after a cancellation
-/

namespace SpaceMigration

open Stateful (exec exec_bind exec_lift)

/-! ### Looking at the cancellation -/

section

variable {m : Type → Type} [Monad m] {σ : Type} [Stateful m σ] {host : Host m} {n : Nat}
  {before after : Nat × σ}

theorem Host.Answers.made_of_interrupted {interruption : Interruption} {call : Call}
    (h : (host.interrupted n interruption).Answers before call after) :
    after.1 = before.1 + 1 := by
  have hcounted {α : Type} {action : m (Except MigrationError α)}
      {result : Except MigrationError α}
      (h : exec (interruptible n interruption action) before = (result, after)) :
      after.1 = before.1 + 1 := by
    rw [exec_interruptible] at h
    split at h <;> exact congrArg (·.2.1) h.symm
  cases call with
  | check b =>
    change exec (host.interrupted n interruption).isCancelled before = (b, after) at h
    rw [exec_isCancelled_interrupted] at h
    exact congrArg (·.2.1) h.symm
  | _ => exact hcounted h

theorem Host.Path.made_of_interrupted {interruption : Interruption} {calls : List Call}
    (h : (host.interrupted n interruption).Path before calls after) :
    after.1 = before.1 + calls.length := by
  induction h with
  | refl s => rfl
  | call answer _ ih => rw [ih, answer.made_of_interrupted, List.length_cons]; omega
  | @clock s u calls _ ih =>
    change u.1 = (exec (StateT.lift host.clock) s).2.1 + _ at ih
    rwa [exec_lift] at ih

/-- **No look misses the cancellation**: from the call number `n` on every look finds it. -/
theorem Host.Path.look_of_interrupted {calls : List Call} {k : Nat} {b : Bool}
    (h : (host.interrupted n .cancel).Path before calls after)
    (hlook : calls[k]? = some (.check b)) (hn : n ≤ before.1 + k) : b = true := by
  obtain ⟨hsplit, hlength⟩ := split_of_getElem? hlook
  rw [hsplit] at h
  obtain ⟨_, hearlier, hrest⟩ := h.of_append
  obtain ⟨s, t, hclock, answer, -⟩ := hrest.of_cons
  have hmade := (hearlier.append hclock).made_of_interrupted
  rw [List.append_nil, hlength] at hmade
  change exec (host.interrupted n .cancel).isCancelled s = (b, t) at answer
  rw [exec_isCancelled_interrupted] at answer
  have hb : ((exec host.isCancelled s.2).1 || decide (n ≤ s.1)) = b := congrArg Prod.fst answer
  rw [← hb, decide_eq_true (hmade ▸ hn), Bool.or_true]

end

/-! ### What a cancelled run still does -/

/-- What a run saves after a call during which it is cancelled. After a load it is the loaded
document or nothing, and while a document is converted it is one document at most; after any other
call nothing is saved. -/
def SavedBehind (entries : List (SpaceSelection × EntityReference)) (hit : Call)
    (saved : List TargetDocument) : Prop :=
  match hit with
  | .load spaceKey _ (.ok document) =>
    saved = [] ∨ ∃ entry ∈ entries, entry.1.key = spaceKey ∧
      ∃ content, saved = [document.migrated spaceKey entry.2 content]
  | .convert _ _ => saved.length ≤ 1
  | _ => saved = []

/-- Of calls that save one document at most, a save is behind no other. -/
theorem savedBehind_of_goesOn {entries : List (SpaceSelection × EntityReference)}
    {front rest : List Call} {hit : Call} (hhit : hit.goesOn = true)
    (hsaved : ((front ++ hit :: rest).filterMap Call.savedDocument?).length ≤ 1) :
    SavedBehind entries hit (rest.filterMap Call.savedDocument?) := by
  rw [List.filterMap_append, List.length_append] at hsaved
  cases hit with
  | convert o result => exact Nat.le_trans (Nat.le_add_left _ _) hsaved
  | save d result =>
    change _ + (rest.filterMap Call.savedDocument?).length.succ ≤ 1 at hsaved
    exact List.length_eq_zero_iff.1 (by omega)
  | _ => cases hhit

theorem Stretch.savedBehind {entries : List (SpaceSelection × EntityReference)}
    {front rest : List Call} {hit : Call} (h : Stretch entries (front ++ hit :: rest)) :
    (∀ call ∈ rest, call.goesOn = true) ∧
      SavedBehind entries hit (rest.filterMap Call.savedDocument?) := by
  generalize hall : front ++ hit :: rest = calls at h
  cases h with
  | nil => simp at hall
  | list hentry result =>
    cases front with
    | nil =>
      obtain ⟨rfl, rfl⟩ := List.cons.inj hall
      exact ⟨by simp, rfl⟩
    | cons first front => simp at hall
  | @document entry documentId calls r hentry h =>
    obtain ⟨loaded, handled, rfl, hgoes, hsaved⟩ := h.exists_load
    cases front with
    | nil =>
      -- The call is the load of the document.
      obtain ⟨rfl, rfl⟩ := List.cons.inj hall
      refine ⟨hgoes, ?_⟩
      obtain hnone | ⟨document, content, rfl, hone⟩ := hsaved
      · cases loaded with
        | error e => exact hnone
        | ok document => exact .inl hnone
      · exact .inr ⟨entry, hentry, rfl, content, hone⟩
    | cons first front =>
      rw [List.cons_append] at hall
      obtain ⟨-, rfl⟩ := List.cons.inj hall
      have hlength : ((front ++ hit :: rest).filterMap Call.savedDocument?).length ≤ 1 := by
        obtain hnone | ⟨document, content, -, hone⟩ := hsaved
        · rw [hnone]
          exact Nat.zero_le _
        · rw [hone]
          exact Nat.le_refl _
      obtain ⟨hhit, hrest⟩ := List.forall_mem_cons.1 (List.forall_mem_append.1 hgoes).2
      exact ⟨hrest, savedBehind_of_goesOn hhit hlength⟩

theorem Call.reads_nothing_of_goesOn {call : Call} (h : call.goesOn = true) :
    call.listed? = none ∧ call.loaded? = none := by
  cases call with
  | convert o result => exact ⟨rfl, rfl⟩
  | save d result => exact ⟨rfl, rfl⟩
  | _ => cases h

/-- What a paced list of calls still has after a call behind which no look finds the run going
on. -/
theorem Paced.late_calls {entries : List (SpaceSelection × EntityReference)}
    {before late : List Call} {hit : Call} (h : Paced entries (before ++ hit :: late))
    (hhit : hit ≠ .check false) (hlate : .check false ∉ late) :
    (∀ call ∈ late, call.listed? = none ∧ call.loaded? = none) ∧
      SavedBehind entries hit (late.filterMap Call.savedDocument?) := by
  obtain ⟨rfl, rfl⟩ | ⟨front, rest, hstretch, hrest⟩ := h.split hhit hlate
  · exact ⟨by simp, rfl⟩
  · obtain ⟨hgoes, hsaved⟩ := hstretch.savedBehind
    have hreads := fun call hc => Call.reads_nothing_of_goesOn (hgoes call hc)
    obtain rfl | rfl := hrest
    · exact ⟨hreads, hsaved⟩
    · rw [List.filterMap_append, List.filterMap_cons_none rfl, List.filterMap_nil, List.append_nil]
      exact ⟨List.forall_mem_append.2 ⟨hreads, by simp [Call.listed?, Call.loaded?]⟩, hsaved⟩

/-! ### The whole run -/

theorem MigrationJob.interrupted_transcript {σ : Type} (job : MigrationJob)
    (host : Host (StateM σ)) (n : Nat) (interruption : Interruption) (world : σ) :
    let (((snapshot, calls), made), world') :=
      (((job.run (host.interrupted n interruption).observed).run []).run 0).run world
    RunTranscript job calls snapshot ∧
      (host.interrupted n interruption).Path (0, world, ()) calls (made, world', ()) :=
  job.observed_transcript (host.interrupted n interruption) (0, world, ())

/-- **A run stops between documents.** Cancel a run during its call number `n`, over any host. If
`n` is `0`, which is before the run begins, it makes no call but the look that finds it cancelled.
After the call no space is listed and no document is loaded. A document is saved only if it was
being migrated: after a load that is the loaded document, and after a listing or a save it is
none. -/
theorem MigrationJob.run_stops_between_documents {σ : Type} (job : MigrationJob)
    (host : Host (StateM σ)) (n : Nat) (world : σ) :
    let (((_, calls), _), _) :=
      (((job.run (host.interrupted n .cancel).observed).run []).run 0).run world
    let late := calls.drop (n + 1)
    (n = 0 → calls = [.check true]) ∧
      (∀ call ∈ late, call.listed? = none ∧ call.loaded? = none) ∧
      ∀ hit ∈ calls[n]?,
        SavedBehind job.effectiveAnswer.entries hit (late.filterMap Call.savedDocument?) := by
  have h := job.interrupted_transcript host n .cancel world
  generalize (((job.run (host.interrupted n .cancel).observed).run []).run 0).run world = outcome
    at h ⊢
  obtain ⟨⟨⟨snapshot, calls⟩, made⟩, world'⟩ := outcome
  obtain ⟨h, hpath⟩ := h
  have hlook {k : Nat} {b : Bool} (hget : calls[k]? = some (.check b)) (hn : n ≤ k) : b = true :=
    hpath.look_of_interrupted hget (Nat.le_trans hn (Nat.le_add_left k 0))
  constructor
  · rintro rfl
    cases h with
    | cancelled => rfl
    | aborted => cases hlook (k := 0) rfl (Nat.le_refl 0)
    | finished => cases hlook (k := 0) rfl (Nat.le_refl 0)
  · cases hget : calls[n]? with
    | none =>
      have hnone : calls.drop (n + 1) = [] :=
        List.drop_eq_nil_of_le (Nat.le_succ_of_le (List.getElem?_eq_none_iff.1 hget))
      simp [hnone]
    | some hit =>
      have hhit : hit ≠ .check false := by
        rintro rfl
        cases hlook hget (Nat.le_refl n)
      have hlate : .check false ∉ calls.drop (n + 1) := by
        intro hmem
        obtain ⟨k, hk⟩ := List.mem_iff_getElem?.1 hmem
        rw [List.getElem?_drop] at hk
        cases hlook hk (by omega)
      have hpaced := h.paced
      rw [(split_of_getElem? hget).1] at hpaced
      simpa using hpaced.late_calls hhit hlate

/-- Cancelled while it loads the first of two documents, a job saves that one and looks once
more. -/
example :
    let pages : ExportSpace :=
      ⟨"ENG", "Engineering", [⟨"home", "Home", [], "", []⟩, ⟨"news", "News", [], "", []⟩]⟩
    let host : Host (StateM Unit) :=
      .ofExport (.ofSpaces [pages]) .empty (pure .epoch) (pure false) fun _ => pure (.ok ())
    let job : MigrationJob := .new "job-1" ⟨⟨"Audit"⟩, ⟨"Migrated"⟩, [⟨"ENG", "Engineering"⟩]⟩
    (((((job.run (host.interrupted 4 .cancel).observed).run []).run 0).run ()).1.1.2.drop 4).map
        (fun call => (call.loaded?, call.savedDocument?.map (·.title))) =
      [(some ("ENG", "home"), none), (none, some "Home"), (none, none)] := by
  decide +kernel

end SpaceMigration
