import SpaceMigration.Proofs.StoreHistory
import SpaceMigration.Proofs.Tracking

/-!
# Interrupted runs

A run can be interrupted at any of its calls: the call fails with an infrastructure error, or the
job is cancelled. What the run has produced by then is the beginning of what it produces when it is
left alone. It has saved the first of the same documents and completed the first of the same spaces,
and its log tells the beginning of the same story, with one more event for its end.

Nothing is asked of the host. It may fail documents, or the whole run, on its own; the interruption
comes on top.

## Main definitions

* `Interruption`, `Host.interrupted` — a host with an interruption at one call
* `Host.clockedBy` — a host with a clock of its own, so that two runs may see different times

## Main results

* `MigrationJob.interrupted_run_breaks_off` — what an interrupted run has produced
-/

namespace SpaceMigration

open Stateful (exec exec_pure exec_bind exec_lift)

/-! ### Hosts with an interruption -/

/-- What interrupts a run at one of its calls. -/
inductive Interruption where
  /-- The call fails without reaching the host. -/
  | fail (e : MigrationError) (infrastructure : e.isInfrastructure = true)
  /-- The job is cancelled, and the call goes on. -/
  | cancel

namespace Interruption

/-- The error of a call before which `made` calls were made, when the run is interrupted at the
call number `n`. -/
def failure? (interruption : Interruption) (n made : Nat) : Option MigrationError :=
  match interruption with
  | fail e _ => if made = n then some e else none
  | cancel => none

/-- Whether a look finds the job cancelled by the interruption. -/
def cancels (interruption : Interruption) (n made : Nat) : Bool :=
  match interruption with
  | fail _ _ => false
  | cancel => n ≤ made

theorem isInfrastructure_of_failure? {interruption : Interruption} {n made : Nat}
    {e : MigrationError} (h : interruption.failure? n made = some e) :
    e.isInfrastructure = true := by
  cases interruption with
  | fail e' infrastructure =>
    obtain ⟨-, rfl⟩ : made = n ∧ e' = e := by simpa [failure?] using h
    exact infrastructure
  | cancel => cases h

end Interruption

section

variable {m : Type → Type} [Monad m]

/-- The number of calls before this one. -/
def countCall : StateT Nat m Nat :=
  modifyGet fun made => (made, made + 1)

/-- A call that may be the one at which the run is interrupted. -/
def interruptible {α : Type} (n : Nat) (interruption : Interruption)
    (call : m (Except MigrationError α)) : StateT Nat m (Except MigrationError α) := do
  match interruption.failure? n (← countCall) with
  | some e => return .error e
  | none => StateT.lift call

/-- The host that interrupts a run at the call number `n`. Looks at the cancellation count as calls,
so a run can be cancelled between any two of its steps. -/
def Host.interrupted (n : Nat) (interruption : Interruption) (host : Host m) :
    Host (StateT Nat m) where
  clock := StateT.lift host.clock
  isCancelled := do
    let made ← countCall
    let cancelled ← StateT.lift host.isCancelled
    return cancelled || interruption.cancels n made
  list spaceKey := interruptible n interruption (host.list spaceKey)
  load spaceKey documentId := interruptible n interruption (host.load spaceKey documentId)
  convert o := interruptible n interruption (host.convert o)
  save d := interruptible n interruption (host.save d)

/-- The host with another clock, which nothing but the clock reads or moves. -/
def Host.clockedBy {τ : Type} (clock : τ → Timestamp × τ) (host : Host m) : Host (StateT τ m) where
  clock := modifyGet clock
  isCancelled := StateT.lift host.isCancelled
  list spaceKey := StateT.lift (host.list spaceKey)
  load spaceKey documentId := StateT.lift (host.load spaceKey documentId)
  convert o := StateT.lift (host.convert o)
  save d := StateT.lift (host.save d)

variable {σ : Type} [Stateful m σ]

theorem exec_countCall (made : Nat) (s : σ) :
    exec (countCall : StateT Nat m Nat) (made, s) = (made, made + 1, s) :=
  Stateful.exec_of_run_eq rfl s

theorem exec_interruptible {α : Type} (n : Nat) (interruption : Interruption)
    (call : m (Except MigrationError α)) (made : Nat) (s : σ) :
    exec (interruptible n interruption call) (made, s) =
      match interruption.failure? n made with
      | some e => (.error e, made + 1, s)
      | none => ((exec call s).1, made + 1, (exec call s).2) := by
  rw [interruptible, exec_bind, exec_countCall]
  cases interruption.failure? n made with
  | some e => exact exec_pure _ _
  | none => exact exec_lift call _ s

end

/-! ### A run and its interruption -/

section

variable {m : Type → Type} [Monad m] {σ τ : Type} [Stateful m σ]

/-- Both runs have made the same calls, and their hosts are in the same state. The clock and the
count of the calls are left out. -/
def SameSoFar (s : List Call × τ × σ) (t : List Call × Nat × τ × σ) : Prop :=
  t.1 = s.1 ∧ t.2.2.2 = s.2.2

/-- The second run has saved, or tried to save, the first of the documents of the first run. -/
def SavedLess (s : List Call × τ × σ) (t : List Call × Nat × τ × σ) : Prop :=
  t.1.filterMap Call.savedDocument? <+: s.1.filterMap Call.savedDocument? ∧
    t.1.filterMap Call.accepted? <+: s.1.filterMap Call.accepted?

theorem SavedLess.of_append {trace more : List Call} {s : τ × σ} {t : List Call × Nat × τ × σ}
    {s' : τ × σ} (h : SavedLess (trace, s) t) : SavedLess (trace ++ more, s') t := by
  rw [SavedLess, List.filterMap_append, List.filterMap_append]
  exact ⟨h.1.trans (List.prefix_append _ _), h.2.trans (List.prefix_append _ _)⟩

/-- A call is answered in the same way, unless the run is interrupted at it. -/
theorem tracks_interruptible {α : Type} (n : Nat) (interruption : Interruption)
    (call : Except MigrationError α → Call)
    (hsaved : ∀ r r', (call r).savedDocument? = (call r').savedDocument?)
    (haccepted : ∀ e, (call (.error e)).accepted? = none) (action : m (Except MigrationError α)) :
    Tracks (·.isInfrastructure = true) SameSoFar SavedLess
      (ExceptT.mk (traced call (StateT.lift action : StateT τ m _)))
      (ExceptT.mk
        (traced call (interruptible n interruption (StateT.lift action : StateT τ m _)))) where
  goes := by
    rintro ⟨_, tick, _⟩ ⟨trace, made, tick', s⟩ ⟨rfl, rfl⟩
    rw [ExceptT.run_mk, ExceptT.run_mk, exec_traced, exec_traced, exec_interruptible, exec_lift]
    cases hfailure : interruption.failure? n made with
    | none =>
      dsimp only
      rw [exec_lift]
      exact .inl ⟨rfl, rfl, rfl⟩
    | some e =>
      refine .inr ⟨e, Interruption.isInfrastructure_of_failure? hfailure, rfl, ?_, ?_⟩
      · have hsame : [call (.error e)].filterMap Call.savedDocument? =
            [call (exec action s).1].filterMap Call.savedDocument? := by
          rw [List.filterMap_cons, hsaved (.error e) (exec action s).1, ← List.filterMap_cons]
        refine ⟨[], ?_⟩
        rw [List.append_nil, List.filterMap_append, List.filterMap_append, hsame]
      · have hnone : [call (.error e)].filterMap Call.accepted? = [] := by
          simp [haccepted]
        rw [List.filterMap_append, List.filterMap_append, hnone, List.append_nil]
        exact List.prefix_append _ _
  stays := by
    rintro ⟨trace, tick, s⟩ t h
    rw [ExceptT.run_mk, exec_traced]
    exact h.of_append

theorem exec_clock_clockedBy (clock : τ → Timestamp × τ) (host : Host m) (tick : τ) (s : σ) :
    exec (host.clockedBy clock).clock (tick, s) = ((clock tick).1, (clock tick).2, s) :=
  Stateful.exec_of_run_eq rfl s

theorem exec_isCancelled_interrupted (n : Nat) (interruption : Interruption) (host : Host m)
    (made : Nat) (s : σ) :
    exec (host.interrupted n interruption).isCancelled (made, s) =
      ((exec host.isCancelled s).1 || interruption.cancels n made, made + 1,
        (exec host.isCancelled s).2) := by
  rw [Host.interrupted, exec_bind, exec_countCall, exec_bind, exec_lift, exec_pure]

theorem Host.tracks_interrupted (n : Nat) (interruption : Interruption) (clock : τ → Timestamp × τ)
    (host : Host m) :
    Host.Tracks SameSoFar SavedLess (host.clockedBy clock).observed
      ((host.clockedBy clock).interrupted n interruption).observed where
  clock := by
    rintro ⟨_, tick, _⟩ ⟨trace, made, tick', s⟩ ⟨rfl, rfl⟩
    rw [observed, observed, exec_lift, exec_lift, interrupted, exec_lift, exec_clock_clockedBy,
      exec_clock_clockedBy]
    exact ⟨rfl, rfl⟩
  clock_first := by
    rintro ⟨trace, tick, s⟩ t h
    rw [observed, exec_lift, exec_clock_clockedBy]
    exact h
  clock_second := by
    rintro s ⟨trace, made, tick, t⟩ h
    rw [observed, exec_lift, interrupted, exec_lift, exec_clock_clockedBy]
    exact h
  isCancelled := by
    rintro ⟨_, tick, _⟩ ⟨trace, made, tick', s⟩ ⟨rfl, rfl⟩
    have hlook (tick : τ) : exec (host.clockedBy clock).isCancelled (tick, s) =
        ((exec host.isCancelled s).1, tick, (exec host.isCancelled s).2) := exec_lift _ tick s
    rw [observed, observed, exec_traced, exec_traced, exec_isCancelled_interrupted, hlook, hlook]
    cases hcancels : interruption.cancels n made with
    | false =>
      rw [Bool.or_false]
      exact .inl ⟨rfl, rfl, rfl⟩
    | true =>
      rw [Bool.or_true]
      refine .inr ⟨rfl, ?_, ?_⟩
      · rw [List.filterMap_append, List.filterMap_append]
        exact List.prefix_rfl
      · rw [List.filterMap_append, List.filterMap_append]
        exact List.prefix_rfl
  isCancelled_first := by
    rintro ⟨trace, tick, s⟩ t h
    rw [observed, exec_traced]
    exact h.of_append
  list spaceKey := tracks_interruptible n interruption (.list spaceKey) (fun _ _ => rfl)
    (fun _ => rfl) (host.list spaceKey)
  load spaceKey documentId := tracks_interruptible n interruption (.load spaceKey documentId)
    (fun _ _ => rfl) (fun _ => rfl) (host.load spaceKey documentId)
  convert o := tracks_interruptible n interruption (.convert o) (fun _ _ => rfl) (fun _ => rfl)
    (host.convert o)
  save d := tracks_interruptible n interruption (.save d) (fun _ _ => rfl) (fun _ => rfl)
    (host.save d)

end

/-- **An interrupted run breaks off.** Interrupt a run at any one of its calls, by an infrastructure
error of the call or by cancelling the job. The documents that it saves, or tries to save, are the
first of those of the run that is left alone, its results are the first of the results of that run,
and its log, without the last event, tells the beginning of what the log of that run tells. -/
theorem MigrationJob.interrupted_run_breaks_off {σ τ : Type} (job : MigrationJob)
    (host : Host (StateM σ)) (clock : τ → Timestamp × τ) (n : Nat) (interruption : Interruption)
    (world : σ) (start later : τ) :
    let whole := (host.clockedBy clock).observed
    let broken := ((host.clockedBy clock).interrupted n interruption).observed
    -- each run with its calls
    let complete := ((((job.run whole).run []).run start).run world).1.1
    let interrupted := (((((job.run broken).run []).run 0).run later).run world).1.1.1
    interrupted.2.filterMap Call.savedDocument? <+: complete.2.filterMap Call.savedDocument? ∧
      interrupted.2.filterMap Call.accepted? <+: complete.2.filterMap Call.accepted? ∧
      interrupted.1.results <+: complete.1.results ∧
      told interrupted.1.log.dropLast <+: told complete.1.log := by
  intro whole broken complete interrupted
  obtain ⟨hresults, hlog, hstate⟩ := job.run_tracks (host.tracks_interrupted n interruption clock)
    (s := ([], start, world, ())) (t := ([], 0, later, world, ())) ⟨rfl, rfl⟩
  obtain ⟨htrace, -⟩ | ⟨hsaved, haccepted⟩ := hstate
  · have htrace : interrupted.2 = complete.2 := htrace
    exact ⟨htrace ▸ List.prefix_rfl, htrace ▸ List.prefix_rfl, hresults, hlog⟩
  · exact ⟨hsaved, haccepted, hresults, hlog⟩

end SpaceMigration
