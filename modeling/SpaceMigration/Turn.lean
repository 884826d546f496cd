/-!
# Taking turns

Tasks at work in one place take turns. There is room for some of them, the first ones; the others
stand outside until one of those at work has ended. A turn is one step of one task. A task that has
made its step stands behind the others at work, and a task that has ended leaves its place to the
next one outside.

Whose turn it is depends on what the tasks wait for, and is not up to them. A list of numbers stands
for it: each number says which of the tasks at work goes on. When the list is used up, the tasks are
completed one after another.

## Main definitions

* `Turn`, `Turn.of?`, `Turn.leave` — one turn among tasks
* `weave` — the steps of tasks that take turns, given the steps of each
-/

namespace SpaceMigration

/-- A turn: the task that goes on, and the other tasks. -/
structure Turn (τ : Type) where
  task : τ
  /-- The tasks at work in front of it. -/
  front : List τ
  /-- The tasks at work behind it. -/
  back : List τ
  /-- The tasks for which there is no room. -/
  outside : List τ
deriving DecidableEq, Repr

namespace Turn

variable {τ : Type}

/-- How many tasks are at work, if there are enough of them. There is room for one at least, and for
one only when no more turns are given: then the first task goes on until it has ended. -/
def places (room : Nat) (turns : List Nat) : Nat :=
  if turns.isEmpty then 1 else max room 1

/-- The next turn. -/
def of? (room : Nat) (turns : List Nat) (tasks : List τ) : Option (Turn τ) :=
  let atWork := tasks.take (places room turns)
  let place := turns.headD 0 % atWork.length
  atWork[place]?.map fun task =>
    ⟨task, atWork.take place, atWork.drop (place + 1), tasks.drop (places room turns)⟩

/-- The tasks after a turn, of which one is there no more if it has ended. -/
def leave (turn : Turn τ) (next : Option τ) : List τ :=
  turn.front ++ turn.back ++ next.toList ++ turn.outside

end Turn

/-- The steps of a task from the second one on, as a task again unless there are none. -/
def stepsLeft? {α : Type} : List α → Option (α × List α)
  | [] => none
  | step :: rest => some (step, rest)

/-- All steps of a task. -/
def allSteps {α : Type} (task : α × List α) : List α :=
  task.1 :: task.2

/-- The steps of tasks that take turns, in their order. A task is given as its first step and the
steps after it. -/
def weave {α : Type} (room : Nat) : List Nat → List (α × List α) → List α
  | [], tasks => tasks.flatMap allSteps
  | number :: turns, tasks =>
    match Turn.of? room (number :: turns) tasks with
    | none => []
    | some turn => turn.task.1 :: weave room turns (turn.leave (stepsLeft? turn.task.2))

end SpaceMigration
