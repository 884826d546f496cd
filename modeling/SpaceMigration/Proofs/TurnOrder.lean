import Mathlib.Data.List.Flatten
import SpaceMigration.Turn

/-!
# The order of turns

Which task goes on is left open by most statements about tasks that take turns. What they use of a
turn is that it is a turn of one of the tasks, and that the other tasks are there afterwards as they
were before (`Turn.perm_of_of?`, `Turn.perm_leave`). So the steps of all tasks are made, once each,
and those of one task in their order (`weave_perm`, `sublist_weave`).

With room for one task there is nothing to choose: the tasks are completed one after another
(`weave_of_room_le_one`).

## Main results

* `weave_perm`, `sublist_weave` — the steps in turns, whatever the turns
* `weave_of_room_le_one` — the steps with room for one task
-/

namespace SpaceMigration

namespace Turn

variable {τ υ : Type} {room : Nat} {turns : List Nat} {tasks : List τ} {turn : Turn τ}

/-- The same turn among tasks that correspond. -/
def map (f : τ → υ) (turn : Turn τ) : Turn υ :=
  ⟨f turn.task, turn.front.map f, turn.back.map f, turn.outside.map f⟩

theorem leave_map (f : τ → υ) (turn : Turn τ) (next : Option τ) :
    (turn.map f).leave (next.map f) = (turn.leave next).map f := by
  cases next <;> simp [leave, map]

theorem places_pos (room : Nat) (turns : List Nat) : 0 < places room turns := by
  rw [places]
  split
  · exact Nat.one_pos
  · omega

theorem places_of_room_le_one {room : Nat} (h : room ≤ 1) (turns : List Nat) :
    places room turns = 1 := by
  rw [places]
  split
  · rfl
  · omega

@[simp] theorem of?_nil (room : Nat) (turns : List Nat) :
    of? room turns ([] : List τ) = none := by
  simp [of?]

/-- As long as there are tasks, one of them has a turn. -/
theorem exists_of?_cons (room : Nat) (turns : List Nat) (task : τ) (rest : List τ) :
    ∃ turn, of? room turns (task :: rest) = some turn := by
  have hlength : 0 < ((task :: rest).take (places room turns)).length := by
    rw [List.length_take, List.length_cons]
    exact Nat.lt_min.2 ⟨places_pos room turns, rest.length.succ_pos⟩
  rw [of?, List.getElem?_eq_getElem (Nat.mod_lt _ hlength)]
  exact ⟨_, rfl⟩

theorem of?_map (f : τ → υ) (room : Nat) (turns : List Nat) (tasks : List τ) :
    of? room turns (tasks.map f) = (of? room turns tasks).map (Turn.map f) := by
  simp only [of?, ← List.map_take, ← List.map_drop, List.length_map, List.getElem?_map,
    Option.map_map]
  rfl

/-- The tasks of a turn are the one that goes on, those around it, and those outside. -/
theorem eq_of_of? (h : of? room turns tasks = some turn) :
    tasks = turn.front ++ turn.task :: turn.back ++ turn.outside := by
  obtain ⟨task, htask, rfl⟩ := Option.map_eq_some_iff.1 h
  obtain ⟨hplace, rfl⟩ := List.getElem?_eq_some_iff.1 htask
  dsimp only
  rw [List.append_cons, ← List.take_succ_eq_append_getElem hplace, List.take_append_drop,
    List.take_append_drop]

theorem perm_of_of? (h : of? room turns tasks = some turn) :
    tasks.Perm (turn.task :: (turn.front ++ turn.back ++ turn.outside)) := by
  rw [eq_of_of? h, List.append_assoc, List.append_assoc]
  exact List.perm_middle

theorem task_mem (h : of? room turns tasks = some turn) : turn.task ∈ tasks :=
  (perm_of_of? h).mem_iff.2 List.mem_cons_self

theorem mem_of_mem_others (h : of? room turns tasks = some turn) {other : τ}
    (hother : other ∈ turn.front ++ turn.back ++ turn.outside) : other ∈ tasks :=
  (perm_of_of? h).mem_iff.2 (List.mem_cons_of_mem _ hother)

/-- The other tasks stay when a task goes on. -/
theorem perm_leave (turn : Turn τ) (next : Option τ) :
    (turn.leave next).Perm (next.toList ++ (turn.front ++ turn.back ++ turn.outside)) := by
  rw [leave, ← List.append_assoc]
  exact List.perm_append_comm.append_right _

theorem mem_leave (turn : Turn τ) {next : Option τ} {other : τ} :
    other ∈ turn.leave next ↔
      next = some other ∨ other ∈ turn.front ++ turn.back ++ turn.outside := by
  rw [(turn.perm_leave next).mem_iff, List.mem_append, Option.mem_toList]

/-- With one place, the first task goes on. -/
theorem of?_of_places_eq_one (h : places room turns = 1) (task : τ) (rest : List τ) :
    of? room turns (task :: rest) = some ⟨task, [], [], rest⟩ := by
  simp [of?, h, Nat.mod_one]

/-- If always the number zero is given, the task goes on that has waited longest. -/
theorem of?_zero (room : Nat) (turns : List Nat) (task : τ) (rest : List τ) :
    of? room (0 :: turns) (task :: rest) =
      some ⟨task, [], rest.take (max room 1 - 1), rest.drop (max room 1 - 1)⟩ := by
  obtain ⟨more, hmore⟩ : ∃ more, max room 1 = more + 1 := ⟨max room 1 - 1, by omega⟩
  simp [of?, places, hmore]

end Turn

/-! ### Steps in turns -/

section

variable {α : Type}

theorem flatMap_stepsLeft? (steps : List α) :
    (stepsLeft? steps).toList.flatMap allSteps = steps := by
  cases steps with
  | nil => rfl
  | cons step rest => simp [stepsLeft?, allSteps]

theorem weave_eq_nil (room : Nat) (turns : List Nat) :
    weave room turns ([] : List (α × List α)) = [] := by
  cases turns with
  | nil => rfl
  | cons number turns => rw [weave, Turn.of?_nil]

/-- One step, whether or not the turns are used up. -/
theorem weave_of_turn {room : Nat} {turns : List Nat} {tasks : List (α × List α)}
    {turn : Turn (α × List α)} (h : Turn.of? room turns tasks = some turn) :
    weave room turns tasks =
      turn.task.1 :: weave room turns.tail (turn.leave (stepsLeft? turn.task.2)) := by
  cases turns with
  | cons number turns => rw [weave, h, List.tail_cons]
  | nil =>
    cases tasks with
    | nil =>
      rw [Turn.of?_nil] at h
      cases h
    | cons task rest =>
      rw [Turn.of?_of_places_eq_one rfl] at h
      cases h
      rw [weave, List.tail_nil, weave, Turn.leave, List.flatMap_append, List.flatMap_append,
        flatMap_stepsLeft?]
      rfl

/-- **All steps are made**, once each. -/
theorem weave_perm (room : Nat) (turns : List Nat) (tasks : List (α × List α)) :
    (weave room turns tasks).Perm (tasks.flatMap allSteps) := by
  induction turns generalizing tasks with
  | nil => exact .rfl
  | cons number turns ih =>
    cases tasks with
    | nil => rw [weave_eq_nil]; exact .rfl
    | cons task rest =>
      obtain ⟨turn, h⟩ := Turn.exists_of?_cons room (number :: turns) task rest
      rw [weave_of_turn h, List.tail_cons]
      have hbefore := (Turn.perm_of_of? h).flatMap_right allSteps
      have hafter := (turn.perm_leave (stepsLeft? turn.task.2)).flatMap_right allSteps
      rw [List.flatMap_append, flatMap_stepsLeft?] at hafter
      exact (((ih _).trans hafter).cons _).trans hbefore.symm

/-- **The steps of one task are made in their order.** -/
theorem sublist_weave (room : Nat) (turns : List Nat) {tasks : List (α × List α)}
    {task : α × List α} (htask : task ∈ tasks) :
    (allSteps task).Sublist (weave room turns tasks) := by
  induction turns generalizing tasks task with
  | nil => exact List.sublist_flatten_of_mem (List.mem_map_of_mem htask)
  | cons number turns ih =>
    obtain ⟨first, rest, rfl⟩ := List.exists_cons_of_ne_nil (List.ne_nil_of_mem htask)
    obtain ⟨turn, h⟩ := Turn.exists_of?_cons room (number :: turns) first rest
    rw [weave_of_turn h, List.tail_cons]
    obtain rfl | hother := List.mem_cons.1 ((Turn.perm_of_of? h).mem_iff.1 htask)
    · refine List.Sublist.cons_cons _ ?_
      cases hsteps : turn.task.2 with
      | nil => exact List.nil_sublist _
      | cons step steps =>
        show (allSteps (step, steps)).Sublist _
        exact ih (turn.mem_leave.2 (.inl rfl))
    · exact (ih (turn.mem_leave.2 (.inr hother))).cons _

/-- The order of the steps does not depend on what they are. -/
theorem weave_map {β : Type} (f : α → β) (room : Nat) (turns : List Nat)
    (tasks : List (α × List α)) :
    weave room turns (tasks.map (Prod.map f (List.map f))) = (weave room turns tasks).map f := by
  have hleft (steps : List α) :
      stepsLeft? (steps.map f) = (stepsLeft? steps).map (Prod.map f (List.map f)) := by
    cases steps <;> rfl
  induction turns generalizing tasks with
  | nil =>
    rw [weave, weave, List.map_flatMap, List.flatMap_map]
    rfl
  | cons number turns ih =>
    rw [weave, weave, Turn.of?_map]
    cases Turn.of? room (number :: turns) tasks with
    | none => rfl
    | some turn =>
      dsimp only [Option.map_some]
      rw [List.map_cons, ← ih, ← Turn.leave_map, ← hleft]
      rfl

/-- **With room for one task, the tasks are completed one after another.** -/
theorem weave_of_room_le_one {room : Nat} (hroom : room ≤ 1) (turns : List Nat)
    (tasks : List (α × List α)) : weave room turns tasks = tasks.flatMap allSteps := by
  induction turns generalizing tasks with
  | nil => rfl
  | cons number turns ih =>
    cases tasks with
    | nil => rw [weave_eq_nil, List.flatMap_nil]
    | cons task rest =>
      rw [weave_of_turn (Turn.of?_of_places_eq_one (Turn.places_of_room_le_one hroom _) task rest),
        List.tail_cons, ih, Turn.leave, List.flatMap_append, List.flatMap_append,
        flatMap_stepsLeft?]
      rfl

end

end SpaceMigration
