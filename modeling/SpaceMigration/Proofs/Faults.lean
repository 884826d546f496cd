import SpaceMigration.Proofs.Ending

/-!
# Runs behind a script of faults

A script of faults stands between a job and its host. What it does to a call depends on the call
alone (`Fault.verdict`): the call fails without reaching the host, or it reaches the host as it is,
and it may cancel the job on the way. So the state of the job's token can be told from the calls
made so far (`Host.Path.token_of_disturbed`), and every result with a value comes from the host.

## Main definitions

* `Call.cancels` — the calls during which a script cancels the job

## Main results

* `Host.Answers.of_disturbed` — a result with a value is that of the host
* `Host.Path.token_of_disturbed`, `Host.Path.look_of_disturbed` — the token, and looking at it
-/

namespace SpaceMigration

open Stateful (exec exec_pure exec_bind exec_stateT exec_lift)

/-- What a script does to a call: whether it cancels the job, and the error with which it makes the
call fail. -/
def Fault.verdict (site : FaultSite) (subject : String) :
    List Fault → Bool × Option MigrationError
  | [] => (false, none)
  | fault :: rest =>
    if fault.site = site ∧ fault.subject = subject then
      match fault.effect with
      | .fail e => (false, some e)
      | .cancel => (true, (verdict site subject rest).2)
    else verdict site subject rest

/-- The site and the subject by which a fault finds a call. -/
def Call.place? : Call → Option (FaultSite × String)
  | .check _ => none
  | .list spaceKey _ => some (.list, spaceKey)
  | .load spaceKey documentId _ => some (.load, spaceKey ++ "/" ++ documentId)
  | .convert o _ => some (.convert, o.id)
  | .save d _ => some (.save, d.reference.path)

/-- The script cancels the job during the call. -/
def Call.cancels (faults : List Fault) (call : Call) : Bool :=
  call.place?.any fun place => (Fault.verdict place.1 place.2 faults).1

section

variable {m : Type → Type} [Monad m] {σ : Type} [Stateful m σ]

theorem exec_guarded {α : Type} (site : FaultSite) (subject : String)
    (call : m (Except MigrationError α)) (faults : List Fault) (cancelled : Bool) (s : σ) :
    exec (guarded site subject call faults) (cancelled, s) =
      match (Fault.verdict site subject faults).2 with
      | some e => (.error e, cancelled || (Fault.verdict site subject faults).1, s)
      | none =>
        ((exec call s).1, cancelled || (Fault.verdict site subject faults).1, (exec call s).2) := by
  induction faults generalizing cancelled with
  | nil => rw [guarded, exec_lift, Fault.verdict, Bool.or_false]
  | cons fault rest ih =>
    rw [guarded, Fault.verdict]
    split
    · cases fault.effect with
      | fail e =>
        rw [Bool.or_false]
        exact exec_pure _ _
      | cancel =>
        have hset : exec (set true : StateT Bool m PUnit) (cancelled, s) = (⟨⟩, true, s) :=
          Stateful.exec_modify (fun _ => true) cancelled s
        simp only [exec_bind, hset, ih, Bool.true_or, Bool.or_true]
    · exact ih cancelled

theorem of_exec_guarded {α : Type} {site : FaultSite} {subject : String}
    {call : m (Except MigrationError α)} {faults : List Fault} {before after : Bool × σ}
    {result : Except MigrationError α}
    (h : exec (guarded site subject call faults) before = (result, after)) :
    after.1 = (before.1 || (Fault.verdict site subject faults).1) ∧
      ((∃ e, result = .error e) ∨ exec call before.2 = (result, after.2)) := by
  rw [exec_guarded] at h
  cases hverdict : (Fault.verdict site subject faults).2 with
  | some e =>
    rw [hverdict] at h
    cases h
    exact ⟨rfl, .inl ⟨e, rfl⟩⟩
  | none =>
    rw [hverdict] at h
    cases h
    exact ⟨rfl, .inr rfl⟩

variable {host : Host m} {faults : List Fault} {before after : Bool × σ}

theorem exec_isCancelled_disturbed (host : Host m) (faults : List Fault) (s : Bool × σ) :
    exec (host.disturbed faults).isCancelled s =
      (s.1 || (exec host.isCancelled s.2).1, s.1, (exec host.isCancelled s.2).2) := by
  have hget : exec (get : StateT Bool m Bool) (s.1, (exec host.isCancelled s.2).2) =
      (s.1, s.1, (exec host.isCancelled s.2).2) := by
    have h : (get : StateT Bool m Bool).run s.1 = pure (s.1, s.1) := rfl
    rw [exec_stateT, h, exec_pure]
  change exec (StateT.lift host.isCancelled >>= fun cancelled =>
    (get >>= fun token => pure (token || cancelled) : StateT Bool m Bool)) s = _
  rw [exec_bind, exec_lift, exec_bind, hget, exec_pure]

/-- The token of a disturbed host after an answer: nothing undoes a cancellation. -/
theorem Host.Answers.token_of_disturbed {call : Call}
    (h : (host.disturbed faults).Answers before call after) :
    after.1 = (before.1 || call.cancels faults) := by
  cases call with
  | check b =>
    change exec (host.disturbed faults).isCancelled before = (b, after) at h
    rw [exec_isCancelled_disturbed] at h
    cases h
    exact (Bool.or_false _).symm
  | _ => exact (of_exec_guarded h).1

/-- Whoever looks at a cancelled token finds it cancelled. -/
theorem Host.Answers.look_of_disturbed {b : Bool}
    (h : (host.disturbed faults).Answers before (.check b) after) (hcancelled : before.1 = true) :
    b = true := by
  change exec (host.disturbed faults).isCancelled before = (b, after) at h
  rw [exec_isCancelled_disturbed, hcancelled] at h
  cases h
  rfl

/-- A result with a value is that of the host. -/
theorem Host.Answers.of_disturbed {call : Call}
    (h : (host.disturbed faults).Answers before call after) (hcheck : ∀ b, call ≠ .check b)
    (herror : call.error? = none) : host.Answers before.2 call after.2 := by
  have hvalue {α : Type} {site : FaultSite} {subject : String}
      {action : m (Except MigrationError α)} {result : Except MigrationError α}
      (h : exec (guarded site subject action faults) before = (result, after))
      (hresult : failure? result = none) : exec action before.2 = (result, after.2) := by
    obtain ⟨e, rfl⟩ | h := (of_exec_guarded h).2
    · cases hresult
    · exact h
  cases call with
  | check b => exact absurd rfl (hcheck b)
  | _ => exact hvalue h herror

theorem Host.Path.token_of_disturbed {calls : List Call}
    (h : (host.disturbed faults).Path before calls after) :
    after.1 = (before.1 || calls.any (·.cancels faults)) := by
  induction h with
  | refl s => exact (Bool.or_false _).symm
  | call answer _ ih => rw [ih, answer.token_of_disturbed, List.any_cons, Bool.or_assoc]
  | @clock s u calls _ ih =>
    change u.1 = ((exec (StateT.lift host.clock) s).2.1 || _) at ih
    rwa [exec_lift] at ih

/-- A look at the token finds it cancelled when the job was cancelled before. -/
theorem Host.Path.look_of_disturbed {looked late : List Call} {b : Bool}
    (h : (host.disturbed faults).Path before (looked ++ .check b :: late) after)
    (hcancelled : (before.1 || looked.any (·.cancels faults)) = true) : b = true := by
  obtain ⟨_, hlooked, hrest⟩ := h.of_append
  obtain ⟨s, t, hclock, answer, -⟩ := hrest.of_cons
  refine answer.look_of_disturbed ?_
  rw [(hlooked.append hclock).token_of_disturbed, List.append_nil, hcancelled]

end

/-- An observed run behind a script of faults has a transcript, along a path that begins and ends
with its token. -/
theorem MigrationJob.disturbed_transcript {σ : Type} (job : MigrationJob) (host : Host (StateM σ))
    (faults : List Fault) (cancelled : Bool) (world : σ) :
    let (((snapshot, calls), token), world') :=
      (((job.run (host.disturbed faults).observed).run []).run cancelled).run world
    RunTranscript job calls snapshot ∧
      (host.disturbed faults).Path (cancelled, world, ()) calls (token, world', ()) :=
  job.observed_transcript (host.disturbed faults) (cancelled, world, ())

end SpaceMigration
