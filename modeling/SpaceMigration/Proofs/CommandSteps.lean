import SpaceMigration.CommandLine.Session
import SpaceMigration.Proofs.Stateful

/-!
# How the steps of a command end

A step of a command changes its session, and may end the command with a failure. What is stated of
a step is said at once of its success and its failure, and of the store it leaves: from a store, and
in a world, it ends in one of the ways of a postcondition, and it leaves the world alone.
Postconditions of steps compose to that of a command.

## Main definitions

* `SessionM.EndsIn` — how a step ends in one world
* `SessionM.Ends` — how a step ends in every world
* `SessionM.Keeps` — steps that leave the store alone

## Main results

* `SessionM.EndsIn.bind`, `SessionM.Ends.bind` — steps one after another
* `SessionM.Ends.loadRecord` — loading a record ends with the record in the store
-/

namespace SpaceMigration.CommandLine

open Stateful (exec exec_pure exec_bind exec_lift exec_modify exec_exceptLift exec_throw_bind)

variable {m : Type → Type} [Monad m] {σ : Type} [Stateful m σ] {α β : Type}

/-- From every session with the store, in the given world, the step ends as stated, and leaves the
world alone. -/
def SessionM.EndsIn (x : SessionM m α) (world : σ) (store : Store)
    (Q : Except Failure α → Store → Prop) : Prop :=
  ∀ output, let r := exec x.run (⟨store, output⟩, world)
    Q r.1 r.2.1.store ∧ r.2.2 = world

/-- From every session with the store, the step ends as stated, and leaves the world alone. -/
def SessionM.Ends (x : SessionM m α) (store : Store) (Q : Except Failure α → Store → Prop) :
    Prop :=
  ∀ output world, let r := exec x.run (⟨store, output⟩, world)
    Q r.1 r.2.1.store ∧ r.2.2 = world

/-- The step leaves the store alone. -/
abbrev SessionM.Keeps (x : SessionM m α) : Prop :=
  ∀ store, x.Ends store fun _ store' => store' = store

/-! ### In one world -/

namespace SessionM.EndsIn

variable {x : SessionM m α} {f : α → SessionM m β} {world : σ} {store : Store}
  {Q : Except Failure α → Store → Prop} {R : Except Failure β → Store → Prop}

theorem mono {Q' : Except Failure α → Store → Prop} (h : x.EndsIn world store Q)
    (hQ : ∀ r store', Q r store' → Q' r store') : x.EndsIn world store Q' :=
  fun output => ⟨hQ _ _ (h output).1, (h output).2⟩

theorem bind (hx : x.EndsIn world store Q)
    (hok : ∀ a store', Q (.ok a) store' → SessionM.EndsIn (f a) world store' R)
    (herror : ∀ e store', Q (.error e) store' → R (.error e) store') :
    SessionM.EndsIn (x >>= f) world store R := by
  intro output
  rw [ExceptT.run_bind, exec_bind]
  obtain ⟨hq, hworld⟩ := hx output
  generalize exec x.run (⟨store, output⟩, world) = r at hq hworld ⊢
  obtain ⟨result, ⟨store', output'⟩, world'⟩ := r
  subst hworld
  cases result with
  | ok a => exact hok a store' hq output'
  | error e =>
    rw [exec_pure]
    exact ⟨herror e store' hq, rfl⟩

/-- After a step that leaves the store alone, the next one starts from the same store. -/
theorem after {P : Except Failure α → Prop}
    (hx : x.EndsIn world store fun r store' => P r ∧ store' = store)
    (hok : ∀ a, P (.ok a) → SessionM.EndsIn (f a) world store R)
    (herror : ∀ e, P (.error e) → R (.error e) store) :
    SessionM.EndsIn (x >>= f) world store R :=
  hx.bind (by rintro a _ ⟨ha, rfl⟩; exact hok a ha) (by rintro e _ ⟨he, rfl⟩; exact herror e he)

theorem attempt {step : StateT Session m α} {Q : α → Store → Prop}
    (h : ∀ output, let r := exec step (⟨store, output⟩, world)
      Q r.1 r.2.1.store ∧ r.2.2 = world) :
    SessionM.EndsIn (SessionM.attempt step) world store fun r store' =>
      ∃ a, r = .ok a ∧ Q a store' := by
  intro output
  rw [SessionM.attempt, exec_exceptLift]
  exact ⟨⟨_, rfl, (h output).1⟩, (h output).2⟩

/-- A call that only looks at the world is answered. -/
theorem ask {call : m α} (h : (exec call world).2 = world) :
    SessionM.EndsIn (SessionM.ask call) world store fun r store' =>
      r = .ok (exec call world).1 ∧ store' = store := by
  refine (attempt (Q := fun a store' => a = (exec call world).1 ∧ store' = store) ?_).mono ?_
  · intro output
    rw [exec_lift]
    exact ⟨⟨rfl, rfl⟩, h⟩
  · rintro _ _ ⟨a, rfl, rfl, rfl⟩
    exact ⟨rfl, rfl⟩

end SessionM.EndsIn

/-! ### In every world -/

namespace SessionM.Ends

variable {x : SessionM m α} {f : α → SessionM m β} {store : Store}
  {Q : Except Failure α → Store → Prop} {R : Except Failure β → Store → Prop}

theorem endsIn (h : x.Ends store Q) (world : σ) : x.EndsIn world store Q :=
  fun output => h output world

theorem of_endsIn (h : ∀ world, x.EndsIn world store Q) : x.Ends store Q :=
  fun output world => h world output

theorem mono {Q' : Except Failure α → Store → Prop} (h : x.Ends store Q)
    (hQ : ∀ r store', Q r store' → Q' r store') : x.Ends store Q' :=
  of_endsIn fun world => (h.endsIn world).mono hQ

theorem pure {a : α} (h : Q (.ok a) store) :
    SessionM.Ends (Pure.pure a : SessionM m α) store Q := by
  intro output world
  have hrun : (Pure.pure a : SessionM m α).run = Pure.pure (.ok a) := rfl
  rw [hrun, exec_pure]
  exact ⟨h, rfl⟩

theorem throw {e : Failure} (h : Q (.error e) store) :
    SessionM.Ends (MonadExcept.throw e : SessionM m α) store Q := by
  intro output world
  have hrun : (MonadExcept.throw e : SessionM m α).run = Pure.pure (.error e) := rfl
  rw [hrun, exec_pure]
  exact ⟨h, rfl⟩

theorem bind (hx : x.Ends store Q)
    (hok : ∀ a store', Q (.ok a) store' → SessionM.Ends (f a) store' R)
    (herror : ∀ e store', Q (.error e) store' → R (.error e) store') :
    SessionM.Ends (x >>= f) store R :=
  of_endsIn fun world => (hx.endsIn world).bind
    (fun a store' hq => (hok a store' hq).endsIn world) herror

theorem after {P : Except Failure α → Prop}
    (hx : x.Ends store fun r store' => P r ∧ store' = store)
    (hok : ∀ a, P (.ok a) → SessionM.Ends (f a) store R)
    (herror : ∀ e, P (.error e) → R (.error e) store) : SessionM.Ends (x >>= f) store R :=
  of_endsIn fun world => (hx.endsIn world).after (fun a ha => (hok a ha).endsIn world) herror

/-- Nothing comes after a failure. -/
theorem fail_bind {reason : String} (h : R (.error (.plain reason)) store) :
    SessionM.Ends ((SessionM.fail reason : SessionM m α) >>= f) store R := by
  intro output world
  rw [SessionM.fail, exec_throw_bind]
  exact ⟨h, rfl⟩

theorem attempt {step : StateT Session m α} {Q : α → Store → Prop}
    (h : ∀ output world, let r := exec step (⟨store, output⟩, world)
      Q r.1 r.2.1.store ∧ r.2.2 = world) :
    SessionM.Ends (SessionM.attempt step) store fun r store' => ∃ a, r = .ok a ∧ Q a store' :=
  of_endsIn fun world => .attempt fun output => h output world

theorem get : SessionM.Ends (get : SessionM m Session) store fun r store' =>
    store' = store ∧ ∃ session, r = .ok session ∧ session.store = store := by
  intro output world
  have hlift : (MonadState.get : SessionM m Session) =
      ExceptT.lift (MonadState.get : StateT Session m Session) := rfl
  have hget : exec (MonadState.get : StateT Session m Session) (⟨store, output⟩, world) =
      (⟨store, output⟩, ⟨store, output⟩, world) := Stateful.exec_of_run_eq rfl world
  rw [hlift, exec_exceptLift, hget]
  exact ⟨⟨rfl, _, rfl, rfl⟩, rfl⟩

theorem require (result : Except MigrationError α) :
    SessionM.Ends (SessionM.require result : SessionM m α) store fun r store' =>
      r = result.mapError .ofError ∧ store' = store := by
  cases result with
  | ok a => exact pure ⟨rfl, rfl⟩
  | error e => exact throw ⟨rfl, rfl⟩

/-- What is loaded is the record in the store. -/
theorem loadRecord (document : EntityReference) (store : Store) :
    SessionM.Ends (SessionM.loadRecord document : SessionM m _) store fun r store' =>
      r = (store.loadRecord document).mapError .ofError ∧ store' = store := by
  refine get.bind ?_ ?_
  · rintro session _ ⟨rfl, _, hsession, rfl⟩
    cases hsession
    exact require _
  · rintro e _ ⟨-, _, he, -⟩
    cases he

theorem say (line : String) :
    SessionM.Ends (SessionM.say line : SessionM m Unit) store fun r store' =>
      r = .ok () ∧ store' = store := by
  intro output world
  have hlift : (SessionM.say line : SessionM m Unit) = ExceptT.lift (modify fun session =>
      { session with output := session.output ++ [line] } : StateT Session m Unit) := rfl
  rw [hlift, exec_exceptLift, exec_modify]
  exact ⟨⟨rfl, rfl⟩, rfl⟩

/-- Steps that succeed and leave the store alone do so one after another. -/
theorem forM {f : α → SessionM m PUnit}
    (h : ∀ a, SessionM.Ends (f a) store fun r store' => r = .ok () ∧ store' = store)
    (xs : List α) :
    SessionM.Ends (xs.forM f) store fun r store' => r = .ok () ∧ store' = store := by
  induction xs with
  | nil => exact pure ⟨rfl, rfl⟩
  | cons x xs ih => exact (h x).after (fun _ _ => ih) (by rintro e ⟨⟩)

end SessionM.Ends

/-! ### Steps that leave the store alone -/

namespace SessionM.Keeps

variable {x : SessionM m α} {f : α → SessionM m β}

theorem fail (reason : String) : SessionM.Keeps (SessionM.fail reason : SessionM m α) :=
  fun _ => .throw rfl

theorem bind (hx : x.Keeps) (hf : ∀ a, SessionM.Keeps (f a)) : SessionM.Keeps (x >>= f) := by
  intro store
  refine (hx store).bind ?_ fun _ _ h => h
  rintro a _ rfl
  exact hf a _

theorem ite {c : Prop} [Decidable c] {y : SessionM m α} (hx : x.Keeps) (hy : y.Keeps) :
    SessionM.Keeps (if c then x else y) := by
  split
  · exact hx
  · exact hy

theorem loadRecord (document : EntityReference) :
    SessionM.Keeps (SessionM.loadRecord document : SessionM m _) :=
  fun store => (SessionM.Ends.loadRecord document store).mono fun _ _ h => h.2

theorem say (line : String) : SessionM.Keeps (SessionM.say line : SessionM m Unit) :=
  fun _ => (SessionM.Ends.say line).mono fun _ _ h => h.2

end SessionM.Keeps

end SpaceMigration.CommandLine
