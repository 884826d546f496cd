import SpaceMigration.Proofs.Faults

/-!
# Cancelling a run

A run looks at its token before it begins, before each space and before each document, and not after
the last document. So a cancellation fails the run if a look follows it, and only then: one that
comes during the calls of the last document, or during the listing of a last space without
documents, goes unnoticed, and the run succeeds with a cancelled token
(`cancelled_run_succeeds`).

The token is that of a script of faults, which may be cancelled from the start.

## Main definitions

* `AfterLastLook` — what a run still does when it has looked for the last time

## Main results

* `MigrationJob.run_fails_when_cancelled_before_look` — a cancellation that is followed by a look
  fails the run; one that does not fail it comes after the last look
-/

namespace SpaceMigration

/-- The call is a look at the token. -/
def Call.isLook : Call → Bool
  | .check _ => true
  | _ => false

theorem Call.eq_check_of_isLook {call : Call} (h : call.isLook = true) : ∃ b, call = .check b := by
  cases call with
  | check b => exact ⟨b, rfl⟩
  | _ => cases h

/-- The calls after the last look: none, a listing, or the calls of one document. -/
def AfterLastLook (calls : List Call) : Prop :=
  calls = [] ∨ (∃ spaceKey result, calls = [.list spaceKey result]) ∨
    ∃ spaceKey target documentId result, DocumentTranscript spaceKey target documentId calls result

/-- The calls of a run or of a part of it end with a look that finds nothing, and the calls
after it. -/
def LooksLast (calls : List Call) : Prop :=
  ∃ looked late, calls = looked ++ .check false :: late ∧ AfterLastLook late

theorem LooksLast.append {calls : List Call} (h : LooksLast calls) (before : List Call) :
    LooksLast (before ++ calls) := by
  obtain ⟨looked, late, rfl, hlate⟩ := h
  exact ⟨before ++ looked, late, by rw [List.append_assoc], hlate⟩

theorem LooksLast.of_late {late : List Call} (h : AfterLastLook late) :
    LooksLast (.check false :: late) :=
  ⟨[], late, rfl, h⟩

/-! ### The last look of a run that succeeds -/

theorem DocumentsTranscript.looksLast {jobId spaceKey : String} {target : EntityReference}
    {documentIds : List String} {calls : List Call} {p p' : Progress}
    {r : Except MigrationError (Nat × Nat)}
    (h : DocumentsTranscript jobId spaceKey target documentIds calls p r p')
    (hr : failure? r = none) : calls = [] ∨ LooksLast calls := by
  -- The last document is the one after which nothing is left to call.
  have hdocument {documentId : String} {calls more : List Call} {r : Except MigrationError Tally}
      (h : DocumentTranscript spaceKey target documentId calls r)
      (hmore : more = [] ∨ LooksLast more) : LooksLast (.check false :: (calls ++ more)) := by
    obtain rfl | hmore := hmore
    · rw [List.append_nil]
      exact .of_late (.inr (.inr ⟨_, _, _, _, h⟩))
    · exact hmore.append (.check false :: calls)
  induction h with
  | nil => exact .inl rfl
  | cancelled => cases hr
  | aborted => cases hr
  | migrated now h _ ih => exact .inr (hdocument h (ih (by rwa [failure?_map] at hr)))
  | failed now h he _ ih => exact .inr (hdocument h (ih (by rwa [failure?_map] at hr)))

theorem SpaceTranscript.looksLast {jobId : String} {space : SpaceSelection}
    {target : EntityReference} {calls : List Call} {p p' : Progress}
    (h : SpaceTranscript jobId space target calls p (.ok ()) p') : LooksLast calls := by
  cases h with
  | notListed p now he => exact .of_late (.inr (.inl ⟨_, _, rfl⟩))
  | @finished documentIds calls p migrated failed p' now h =>
    obtain rfl | hcalls := h.looksLast rfl
    · exact .of_late (.inr (.inl ⟨_, _, rfl⟩))
    · exact hcalls.append [.check false, .list space.key (.ok documentIds)]

theorem SpacesTranscript.looksLast {jobId : String}
    {entries : List (SpaceSelection × EntityReference)} {calls : List Call} {p p' : Progress}
    {r : Except MigrationError Unit} (h : SpacesTranscript jobId entries calls p r p')
    (hr : failure? r = none) : calls = [] ∨ LooksLast calls := by
  induction h with
  | nil => exact .inl rfl
  | stopped => cases hr
  | @next entry rest calls more p p' r p'' h _ ih =>
    obtain rfl | hmore := ih hr
    · rw [List.append_nil]
      exact .inr h.looksLast
    · exact .inr (hmore.append calls)

theorem RunTranscript.looksLast {job : MigrationJob} {calls : List Call} {snapshot : JobSnapshot}
    (h : RunTranscript job calls snapshot) (hs : snapshot.state = .finishedSuccess) :
    LooksLast calls := by
  cases h with
  | cancelled => cases hs
  | aborted => cases hs
  | finished startedAt opened now finishedAt h =>
    obtain rfl | hcalls := h.looksLast rfl
    · exact .of_late (.inl rfl)
    · exact hcalls.append [.check false]

/-! ### Cancelled runs -/

/-- What is found at an index splits the list there. -/
theorem split_of_getElem? {α : Type} {xs : List α} {i : Nat} {x : α} (h : xs[i]? = some x) :
    xs = xs.take i ++ x :: xs.drop (i + 1) ∧ (xs.take i).length = i := by
  obtain ⟨hi, rfl⟩ := List.getElem?_eq_some_iff.1 h
  rw [List.getElem_cons_drop, List.take_append_drop]
  exact ⟨rfl, List.length_take_of_le (Nat.le_of_lt hi)⟩

section

variable {m : Type → Type} [Monad m] {σ : Type} [Stateful m σ] {host : Host m}
  {faults : List Fault} {before after : Bool × σ} {calls : List Call}

/-- A look at a token that was cancelled before stops the run. -/
theorem Host.Path.exists_stops_of_look
    (h : (host.disturbed faults).Path before calls after) {earlier late : List Call} {b : Bool}
    (hcalls : calls = earlier ++ .check b :: late)
    (hcancelled : (before.1 || earlier.any (·.cancels faults)) = true) :
    ∃ call ∈ calls, call.Stops := by
  subst hcalls
  have hlook : b = true := h.look_of_disturbed hcancelled
  exact ⟨.check b, by simp, .inl (by rw [hlook])⟩

theorem Host.Path.exists_stops_of_cancels
    (h : (host.disturbed faults).Path before calls after) {i j : Nat} (hij : i < j)
    (hhit : calls[i]?.any (Call.cancels faults) = true) (hlook : calls[j]?.any Call.isLook = true) :
    ∃ call ∈ calls, call.Stops := by
  obtain ⟨hit, hi, hcancels⟩ := (Option.any_eq_true _ _).1 hhit
  obtain ⟨look, hj, hislook⟩ := (Option.any_eq_true _ _).1 hlook
  obtain ⟨b, rfl⟩ := Call.eq_check_of_isLook hislook
  obtain ⟨hsplit, -⟩ := split_of_getElem? hj
  have hearlier : hit ∈ calls.take j := by
    refine List.mem_of_getElem? (i := i) ?_
    rw [List.getElem?_take_of_lt hij, hi]
  refine h.exists_stops_of_look hsplit ?_
  rw [List.any_eq_true.2 ⟨hit, hearlier, hcancels⟩, Bool.or_true]

theorem RunTranscript.exists_first_look {job : MigrationJob} {snapshot : JobSnapshot}
    (h : RunTranscript job calls snapshot) : ∃ b rest, calls = .check b :: rest := by
  cases h <;> exact ⟨_, _, rfl⟩

/-- A run behind a script of faults that is not stopped was not cancelled before it looked for the
last time. If its token is cancelled in the end, that was done by a call behind the last look. -/
theorem RunTranscript.cancelled_late {job : MigrationJob} {snapshot : JobSnapshot}
    (h : RunTranscript job calls snapshot) (hs : snapshot.state = .finishedSuccess)
    (hpath : (host.disturbed faults).Path before calls after) :
    ∃ looked late, calls = looked ++ .check false :: late ∧
      (∀ call ∈ looked, call.cancels faults = false) ∧ AfterLastLook late ∧
      (after.1 = true → ∃ hit ∈ late, hit.cancels faults = true) := by
  obtain ⟨looked, late, hcalls, hlate⟩ := h.looksLast hs
  have hnever : (before.1 || looked.any (·.cancels faults)) = false := by
    rw [← Bool.not_eq_true]
    intro hcancelled
    obtain ⟨call, hc, hstops⟩ := hpath.exists_stops_of_look hcalls hcancelled
    exact (h.of_success hs).1 call hc hstops
  obtain ⟨-, hlooked⟩ := Bool.or_eq_false_iff.1 hnever
  refine ⟨looked, late, hcalls, by simpa using hlooked, hlate, ?_⟩
  intro htoken
  -- Neither the calls up to the last look have cancelled the job, nor the look itself.
  have hlook : (Call.check false).cancels faults = false := rfl
  rw [hpath.token_of_disturbed, hcalls, List.any_append, List.any_cons, hlook, Bool.false_or,
    ← Bool.or_assoc, hnever, Bool.false_or, List.any_eq_true] at htoken
  exact htoken

end

/-- **A cancellation that is followed by a look fails the run**, and the last event of its log says
why. A run that succeeds although its job was cancelled has looked for the last time before that: it
was cancelled during the calls of its last document, or while it listed a last space without
documents. -/
theorem MigrationJob.run_fails_when_cancelled_before_look {σ : Type} (job : MigrationJob)
    (host : Host (StateM σ)) (faults : List Fault) (cancelled : Bool) (world : σ) :
    let (((snapshot, calls), token), _) :=
      (((job.run (host.disturbed faults).observed).run []).run cancelled).run world
    ((cancelled = true ∨ ∃ i j : Nat, i < j ∧ calls[i]?.any (Call.cancels faults) = true ∧
          calls[j]?.any Call.isLook = true) →
        snapshot.state = .finishedFailure ∧ ∃ before last event, calls = before ++ [last] ∧
          snapshot.log.getLast? = some event ∧ ClosedBy job last event) ∧
      (token = true → snapshot.state = .finishedSuccess →
        ∃ looked late hit, calls = looked ++ .check false :: late ∧
          (∀ call ∈ looked, call.cancels faults = false) ∧ AfterLastLook late ∧
          hit ∈ late ∧ hit.cancels faults = true) := by
  have h := job.disturbed_transcript host faults cancelled world
  generalize (((job.run (host.disturbed faults).observed).run []).run cancelled).run world = outcome
    at h ⊢
  obtain ⟨⟨⟨snapshot, calls⟩, token⟩, world'⟩ := outcome
  obtain ⟨h, hpath⟩ := h
  constructor
  · intro hcancelled
    have hstops : ∃ call ∈ calls, call.Stops := by
      rcases hcancelled with htoken | ⟨i, j, hij, hhit, hlook⟩
      · obtain ⟨b, rest, hfirst⟩ := h.exists_first_look
        have hcalls : calls = [] ++ .check b :: rest := hfirst
        exact hpath.exists_stops_of_look hcalls (by rw [htoken, Bool.true_or])
      · exact hpath.exists_stops_of_cancels hij hhit hlook
    have hs : snapshot.state ≠ .finishedSuccess := by
      intro hs
      obtain ⟨call, hc, hstop⟩ := hstops
      exact (h.of_success hs).1 call hc hstop
    obtain ⟨hstate, before, last, event, hcalls, -, -, hevent, hclosed⟩ := h.of_failure hs
    exact ⟨hstate, before, last, event, hcalls, hevent, hclosed⟩
  · intro htoken hs
    obtain ⟨looked, late, hcalls, hlooked, hlate, hend⟩ := h.cancelled_late hs hpath
    obtain ⟨hit, hmem, hhit⟩ := hend htoken
    exact ⟨looked, late, hit, hcalls, hlooked, hlate, hmem, hhit⟩

/-- Two documents of one space. -/
def twoPages : ExportSpace where
  key := "ENG"
  name := "Engineering"
  documents := [⟨"home", "Home", [], "", [.text "Hi"]⟩, ⟨"news", "News", [], "", [.text "Ho"]⟩]

/-- A job that migrates the space of the two documents. -/
def twoPagesJob : MigrationJob :=
  .new "job-1" ⟨⟨"Audit"⟩, ⟨"Migrated"⟩, [⟨"ENG", "Engineering"⟩]⟩

/-- Its surroundings, in which nothing fails by itself. -/
def twoPagesHost : Host (StateM Unit) :=
  .ofExport (.ofSpaces [twoPages]) .empty (pure .epoch) (pure false) fun _ => pure (.ok ())

/-- Cancelled while it loads its first document, the job fails before the second. -/
theorem run_fails_cancelled_between_twoPages :
    let faults : List Fault := [⟨.load, "ENG/home", .cancel⟩]
    let (((snapshot, calls), _), _) :=
      (((twoPagesJob.run (twoPagesHost.disturbed faults).observed).run []).run false).run ()
    (∃ i j : Nat, i < j ∧ calls[i]?.any (Call.cancels faults) = true ∧
        calls[j]?.any Call.isLook = true) ∧
      snapshot.state = .finishedFailure := by
  intro faults
  have hhit : ∃ i j : Nat, i < j ∧
      ((((twoPagesJob.run (twoPagesHost.disturbed faults).observed).run []).run
        false).run ()).1.1.2[i]?.any (Call.cancels faults) = true ∧
      ((((twoPagesJob.run (twoPagesHost.disturbed faults).observed).run []).run
        false).run ()).1.1.2[j]?.any Call.isLook = true :=
    ⟨4, 6, by decide, by decide +kernel, by decide +kernel⟩
  exact ⟨hhit, ((twoPagesJob.run_fails_when_cancelled_before_look twoPagesHost faults false ()).1
    (.inr hhit)).1⟩

/-- **A cancelled run can succeed**: cancelled while it saves its last document, the job ends as if
nothing had happened. -/
theorem cancelled_run_succeeds :
    let faults : List Fault := [⟨.save, "Migrated.ENG.news", .cancel⟩]
    let (((snapshot, _), token), _) :=
      (((twoPagesJob.run (twoPagesHost.disturbed faults).observed).run []).run false).run ()
    token = true ∧ snapshot.state = .finishedSuccess ∧
      snapshot.log.getLast?.map (fun event => (event.level, event.message)) =
        some (.info, "Migration finished") := by
  refine And.intro ?_ (And.intro ?_ ?_) <;> decide +kernel

end SpaceMigration
