import SpaceMigration.Job.Observation

/-!
# Runs from a state

A job is written over the monad of its host, and hosts come in stacks: a store below a script of
faults below a trace of calls. Statements about runs do not depend on the stack. They need one
thing of it, that an action is a function of one state, and `Stateful m σ` says just that; each
transformer adds its layer to the state.

## Paths

`Host.Path host s calls t` says that the host gets from the state `s` to the state `t` by answering
the calls, in that order. Readings of the clock are silent: they may change the state as well, but
leave no call.

A path is how the calls of a run stay tied to what the host did. What every answer of a host looks
like, every call of a path looks like (`Host.Path.answered`).

## Main definitions

* `Stateful` — monads whose actions are functions of a state
* `Host.Answers`, `Host.Path` — one answer of a host, and a sequence of answers
* `Host.Yields` — what an action yields from every state: its calls, along a path, and its result
-/

namespace SpaceMigration

/-- A monad whose actions are functions of a state `σ`. -/
class Stateful (m : Type → Type) [Monad m] (σ : outParam Type) where
  /-- The result of an action and the state after it. -/
  exec {α : Type} : m α → σ → α × σ
  exec_pure {α : Type} (a : α) (s : σ) : exec (pure a : m α) s = (a, s)
  exec_bind {α β : Type} (x : m α) (f : α → m β) (s : σ) :
    exec (x >>= f) s = exec (f (exec x s).1) (exec x s).2

namespace Stateful

/-- Plain values have no state. -/
instance : Stateful Id Unit where
  exec x s := (x, s)
  exec_pure _ _ := rfl
  exec_bind _ _ _ := rfl

variable {m : Type → Type} [Monad m] {σ τ : Type}

/-- A state transformer adds its state to that of the monad below. -/
instance [Stateful m σ] : Stateful (StateT τ m) (τ × σ) where
  exec x s :=
    let r := exec (x.run s.1) s.2
    (r.1.1, r.1.2, r.2)
  exec_pure a s := by
    rw [StateT.run_pure, exec_pure]
  exec_bind x f s := by
    rw [StateT.run_bind, exec_bind]

theorem exec_stateT [Stateful m σ] {α : Type} (x : StateT τ m α) (t : τ) (s : σ) :
    exec x (t, s) =
      ((exec (x.run t) s).1.1, (exec (x.run t) s).1.2, (exec (x.run t) s).2) :=
  rfl

/-- An action that is pure from a state leaves the state below alone. -/
theorem exec_of_run_eq [Stateful m σ] {α : Type} {x : StateT τ m α} {t t' : τ} {a : α}
    (h : x.run t = pure (a, t')) (s : σ) : exec x (t, s) = (a, t', s) := by
  rw [exec_stateT, h, exec_pure]

/-- A lifted action leaves the added state alone. -/
theorem exec_lift [Stateful m σ] {α : Type} (x : m α) (t : τ) (s : σ) :
    exec (StateT.lift x : StateT τ m α) (t, s) = ((exec x s).1, t, (exec x s).2) := by
  have h : (StateT.lift x : StateT τ m α).run t = x >>= fun a => pure (a, t) := rfl
  rw [exec_stateT, h, exec_bind, exec_pure]

theorem exec_modify [Stateful m σ] (f : τ → τ) (t : τ) (s : σ) :
    exec (modify f : StateT τ m Unit) (t, s) = ((), f t, s) :=
  exec_of_run_eq rfl s

theorem exec_run [Stateful m σ] {α : Type} (x : StateT τ m α) (t : τ) (s : σ) :
    exec (x.run t) s = (((exec x (t, s)).1, (exec x (t, s)).2.1), (exec x (t, s)).2.2) :=
  rfl

/-- A step without errors of its own has its result as a value. -/
theorem exec_exceptLift [Stateful m σ] {ε α : Type} (x : StateT τ m α) (s : τ × σ) :
    exec (ExceptT.lift x : ExceptT ε (StateT τ m) α).run s = (.ok (exec x s).1, (exec x s).2) := by
  have hrun : (ExceptT.lift x : ExceptT ε (StateT τ m) α).run =
      x >>= fun a => pure (.ok a) := rfl
  rw [hrun, exec_bind, exec_pure]

/-- Nothing follows an error. -/
theorem exec_throw_bind [Stateful m σ] {ε α β : Type} (e : ε) (f : α → ExceptT ε m β) (s : σ) :
    exec (throw e >>= f : ExceptT ε m β).run s = (.error e, s) := by
  have hthrow : (throw e : ExceptT ε m α).run = pure (.error e) := rfl
  rw [ExceptT.run_bind, hthrow, exec_bind, exec_pure]
  exact exec_pure _ s

end Stateful

open Stateful (exec exec_pure exec_bind)

/-! ### Answers and paths -/

section

variable {m : Type → Type} [Monad m] {σ : Type} [Stateful m σ]

/-- In the state `s` the host answers the call with the result it carries, and is in the state `t`
afterwards. -/
def Host.Answers (host : Host m) (s : σ) (call : Call) (t : σ) : Prop :=
  match call with
  | .check cancelled => exec host.isCancelled s = (cancelled, t)
  | .list spaceKey result => exec (host.list spaceKey) s = (result, t)
  | .load spaceKey documentId result => exec (host.load spaceKey documentId) s = (result, t)
  | .convert occurrence result => exec (host.convert occurrence) s = (result, t)
  | .save document result => exec (host.save document) s = (result, t)

/-- The host gets from one state to another by answering the calls in order. -/
inductive Host.Path (host : Host m) : σ → List Call → σ → Prop
  | refl (s : σ) : Path host s [] s
  | call {s t u : σ} {call : Call} {calls : List Call} :
      host.Answers s call t → Path host t calls u → Path host s (call :: calls) u
  | clock {s u : σ} {calls : List Call} :
      Path host (exec host.clock s).2 calls u → Path host s calls u

namespace Host.Path

variable {host : Host m} {s t u : σ} {calls more : List Call}

theorem append (h : host.Path s calls t) (h' : host.Path t more u) :
    host.Path s (calls ++ more) u := by
  induction h with
  | refl s => exact h'
  | call answer _ ih => exact .call answer (ih h')
  | clock _ ih => exact .clock (ih h')

theorem of_append (h : host.Path s (calls ++ more) u) :
    ∃ t, host.Path s calls t ∧ host.Path t more u := by
  generalize hall : calls ++ more = all at h
  induction h generalizing calls with
  | refl s =>
    obtain ⟨rfl, rfl⟩ := List.append_eq_nil_iff.1 hall
    exact ⟨s, .refl s, .refl s⟩
  | @call s t u first rest answer h ih =>
    cases calls with
    | nil =>
      rw [List.nil_append] at hall
      exact ⟨s, .refl s, hall ▸ .call answer h⟩
    | cons head calls =>
      obtain ⟨rfl, hrest⟩ := List.cons.inj hall
      obtain ⟨v, hcalls, hmore⟩ := ih hrest
      exact ⟨v, .call answer hcalls, hmore⟩
  | clock _ ih =>
    obtain ⟨v, hcalls, hmore⟩ := ih hall
    exact ⟨v, .clock hcalls, hmore⟩

/-- Before the first call of a path there is nothing but readings of the clock. -/
theorem of_cons {call : Call} (h : host.Path s (call :: calls) u) :
    ∃ s' t, host.Path s [] s' ∧ host.Answers s' call t ∧ host.Path t calls u := by
  generalize hall : call :: calls = all at h
  induction h with
  | refl s => cases hall
  | call answer h _ =>
    cases hall
    exact ⟨_, _, .refl _, answer, h⟩
  | clock _ ih =>
    obtain ⟨s', t, hclock, answer, hrest⟩ := ih hall
    exact ⟨s', t, .clock hclock, answer, hrest⟩

/-- Every call of a path was answered in some state. -/
theorem answered (h : host.Path s calls t) {call : Call} (hc : call ∈ calls) :
    ∃ s t, host.Answers s call t := by
  induction h with
  | refl s => simp at hc
  | call answer _ ih =>
    rcases List.mem_cons.1 hc with rfl | hc
    · exact ⟨_, _, answer⟩
    · exact ih hc
  | clock _ ih => exact ih hc

end Host.Path

/-! ### What an action yields -/

/-- From every state, the action makes its calls along a path of the host, and its calls and its
result are as stated. -/
def Host.Yields (host : Host m) {α : Type} (x : m α) (Q : List Call → α → Prop) : Prop :=
  ∀ s, ∃ calls, host.Path s calls (exec x s).2 ∧ Q calls (exec x s).1

namespace Host.Yields

variable {host : Host m} {α β : Type} {x : m α} {Q Q' : List Call → α → Prop}

theorem mono (h : host.Yields x Q) (hQ : ∀ calls a, Q calls a → Q' calls a) :
    host.Yields x Q' := by
  intro s
  obtain ⟨calls, hpath, hq⟩ := h s
  exact ⟨calls, hpath, hQ _ _ hq⟩

theorem pure {a : α} (h : Q [] a) : host.Yields (Pure.pure a : m α) Q := by
  intro s
  rw [exec_pure]
  exact ⟨[], .refl s, h⟩

/-- The calls of a sequence are those of its first part followed by those of its second. -/
theorem bind {f : α → m β} {R : List Call → β → Prop} (hx : host.Yields x Q)
    (hf : ∀ calls a, Q calls a → host.Yields (f a) fun more b => R (calls ++ more) b) :
    host.Yields (x >>= f) R := by
  intro s
  obtain ⟨calls, hpath, hq⟩ := hx s
  obtain ⟨more, hpath', hr⟩ := hf _ _ hq (exec x s).2
  rw [exec_bind]
  exact ⟨calls ++ more, hpath.append hpath', hr⟩

theorem clock : host.Yields host.clock fun calls _ => calls = [] :=
  fun _ => ⟨[], .clock (.refl _), rfl⟩

theorem isCancelled : host.Yields host.isCancelled fun calls b => calls = [.check b] :=
  fun _ => ⟨_, .call (show host.Answers _ (.check _) _ from rfl) (.refl _), rfl⟩

theorem list (spaceKey : String) :
    host.Yields (host.list spaceKey) fun calls result => calls = [.list spaceKey result] :=
  fun _ => ⟨_, .call (show host.Answers _ (.list spaceKey _) _ from rfl) (.refl _), rfl⟩

theorem load (spaceKey documentId : String) :
    host.Yields (host.load spaceKey documentId) fun calls result =>
      calls = [.load spaceKey documentId result] :=
  fun _ => ⟨_, .call (show host.Answers _ (.load spaceKey documentId _) _ from rfl) (.refl _), rfl⟩

theorem convert (o : Occurrence) :
    host.Yields (host.convert o) fun calls result => calls = [.convert o result] :=
  fun _ => ⟨_, .call (show host.Answers _ (.convert o _) _ from rfl) (.refl _), rfl⟩

theorem save (d : TargetDocument) :
    host.Yields (host.save d) fun calls result => calls = [.save d result] :=
  fun _ => ⟨_, .call (show host.Answers _ (.save d _) _ from rfl) (.refl _), rfl⟩

end Host.Yields

end

end SpaceMigration
