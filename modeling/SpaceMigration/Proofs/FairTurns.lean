import SpaceMigration.Proofs.DocumentOrder

/-!
# Fair turns

Turns are fair when the task goes on that has waited longest. A space looks at the cancellation in
its first turn and lists its documents in the second. In fair turns the spaces at work are listed
before any of those outside, and in the order in which they have entered; so all spaces are listed
in their order (`listOrder_fair`), whatever the room and however many documents each of them has.

What is to be listed next is an invariant of fair turns: first the spaces that have entered, in the
order in which they wait, and then the others. A turn of a space that has not entered takes it from
the front of the others to the end of those that have.

## Main definitions

* `OpensOnce` — a space on its way is listed right after it has entered, or not any more
* `toBeListed` — what is to be listed from some point on

## Main results

* `toBeListed_cons`, `listed?_weave_fair` — one fair turn, and all of them
* `listOrder_fair` — in fair turns, the spaces are listed in their order
-/

namespace SpaceMigration

variable {κ : Type}

/-- The space that enters in the turn. -/
def SpaceTurn.entered? (turn : SpaceTurn κ) : Option κ :=
  match turn.stage with
  | .enters => some turn.space
  | _ => none

/-- The turns are those that are left of a space: it is listed in its second turn if it enters in
the first one, and otherwise in the first one, if at all. -/
structure OpensOnce (task : SpaceTurn κ × List (SpaceTurn κ)) : Prop where
  listed : task.2.head?.bind SpaceTurn.listed? = task.1.entered?
  once : ∀ turn ∈ task.2.tail, turn.listed? = none
  entered : ∀ turn ∈ task.2, turn.entered? = none

theorem OpensOnce.next {task next : SpaceTurn κ × List (SpaceTurn κ)} (h : OpensOnce task)
    (hnext : stepsLeft? task.2 = some next) : OpensOnce next := by
  obtain ⟨turn, left⟩ := task
  cases left with
  | nil => cases hnext
  | cons turn' left =>
    cases hnext
    refine ⟨?_, fun turn hturn => h.once turn (List.mem_of_mem_tail hturn),
      fun turn hturn => h.entered turn (List.mem_cons_of_mem _ hturn)⟩
    rw [h.entered turn' List.mem_cons_self]
    cases left with
    | nil => rfl
    | cons later left => exact h.once later List.mem_cons_self

/-- A space that goes on behind the others is listed next if it has just entered. -/
theorem OpensOnce.listed?_next {task : SpaceTurn κ × List (SpaceTurn κ)} (h : OpensOnce task) :
    (stepsLeft? task.2).toList.filterMap (·.1.listed?) = task.1.entered?.toList := by
  rw [← h.listed]
  cases task.2 with
  | nil => rfl
  | cons turn left => cases hlisted : turn.listed? <;> simp [stepsLeft?, hlisted]

theorem OpensOnce.entered?_next {task : SpaceTurn κ × List (SpaceTurn κ)} (h : OpensOnce task) :
    (stepsLeft? task.2).toList.filterMap (·.1.entered?) = [] := by
  obtain ⟨turn, left⟩ := task
  cases left with
  | nil => rfl
  | cons turn' left => simp [stepsLeft?, h.entered turn' List.mem_cons_self]

/-- No document of a space lists or enters it. -/
theorem quiet_documentTurns {space : κ} {documentIds : List String} {turn : SpaceTurn κ}
    (h : turn ∈ documentTurns space documentIds) : turn.listed? = none ∧ turn.entered? = none := by
  induction documentIds with
  | nil => cases h
  | cons documentId rest ih =>
    simp only [documentTurns, List.mem_cons] at h
    obtain rfl | rfl | rfl | hrest := h
    · exact ⟨rfl, rfl⟩
    · exact ⟨rfl, rfl⟩
    · exact ⟨rfl, rfl⟩
    · exact ih hrest

theorem opensOnce_spaceTurns (space : κ × List String) : OpensOnce (spaceTurns space) where
  listed := rfl
  once _ hturn := (quiet_documentTurns hturn).1
  entered turn hturn := by
    obtain rfl | hturn := List.mem_cons.1 hturn
    · rfl
    · exact (quiet_documentTurns hturn).2

theorem length_spaceTurns (space : κ × List String) :
    (allSteps (spaceTurns space)).length = 2 + 3 * space.2.length := by
  have hdocuments (documentIds : List String) :
      (documentTurns space.1 documentIds).length = 3 * documentIds.length := by
    induction documentIds with
    | nil => rfl
    | cons documentId rest ih => simp [documentTurns, ih, Nat.mul_add]
  simp [allSteps, spaceTurns, hdocuments]
  omega

/-! ### The order of the lists -/

/-- The spaces that are to be listed: first those that have entered, and then those that have
not. -/
def toBeListed (tasks : List (SpaceTurn κ × List (SpaceTurn κ))) : List κ :=
  tasks.filterMap (·.1.listed?) ++ tasks.filterMap (·.1.entered?)

/-- **One fair turn lists the first of the spaces that are to be listed**, or none. The others stay
in their order. -/
theorem toBeListed_cons {task : SpaceTurn κ × List (SpaceTurn κ)} (htask : OpensOnce task)
    {room : Nat} {rest : List (SpaceTurn κ × List (SpaceTurn κ))}
    (houtside : ∀ other ∈ rest.drop room, other.1.listed? = none) :
    toBeListed (task :: rest) = task.1.listed?.toList ++
      toBeListed (rest.take room ++ (stepsLeft? task.2).toList ++ rest.drop room) := by
  have hcons {β : Type} (f : SpaceTurn κ × List (SpaceTurn κ) → Option β) :
      (task :: rest).filterMap f = (f task).toList ++
        ((rest.take room).filterMap f ++ (rest.drop room).filterMap f) := by
    rw [← List.filterMap_append, List.take_append_drop]
    cases hf : f task <;> simp [hf]
  have hquiet : (rest.drop room).filterMap (·.1.listed?) = [] :=
    List.filterMap_eq_nil_iff.2 houtside
  simp only [toBeListed, hcons, List.filterMap_append, htask.listed?_next, htask.entered?_next,
    hquiet, List.append_nil, List.nil_append, List.append_assoc]

/-- **What is listed in fair turns** is what is to be listed, in that order. There are turns enough
for all spaces, and none of those outside has entered. -/
theorem listed?_weave_fair {room n : Nat} {tasks : List (SpaceTurn κ × List (SpaceTurn κ))}
    (hopens : ∀ task ∈ tasks, OpensOnce task)
    (houtside : ∀ task ∈ tasks.drop (max room 1), task.1.listed? = none)
    (hn : (tasks.flatMap allSteps).length ≤ n) :
    (weave room (List.replicate n 0) tasks).filterMap SpaceTurn.listed? = toBeListed tasks := by
  induction n generalizing tasks with
  | zero =>
    cases tasks with
    | nil => rfl
    | cons task rest => simp [allSteps] at hn
  | succ n ih =>
    cases tasks with
    | nil =>
      rw [weave_eq_nil]
      rfl
    | cons task rest =>
      have hturn := Turn.of?_zero room (List.replicate n 0) task rest
      have hroom : max room 1 = max room 1 - 1 + 1 := by omega
      rw [hroom, List.drop_succ_cons] at houtside
      generalize max room 1 - 1 = more at hturn hroom houtside
      have hlater : (weave room (List.replicate n 0) (rest.take more ++
            (stepsLeft? task.2).toList ++ rest.drop more)).filterMap SpaceTurn.listed? =
          toBeListed (rest.take more ++ (stepsLeft? task.2).toList ++ rest.drop more) := by
        refine ih ?_ ?_ ?_
        · simp only [List.mem_append, Option.mem_toList]
          rintro other ((hother | hother) | hother)
          · exact hopens other (List.mem_cons_of_mem _ (List.mem_of_mem_take hother))
          · exact (hopens task List.mem_cons_self).next hother
          · exact hopens other (List.mem_cons_of_mem _ (List.mem_of_mem_drop hother))
        · -- All that is outside now was outside before.
          intro other hother
          have hinside : (rest.take more ++ (stepsLeft? task.2).toList).length ≤ more + 1 := by
            rw [List.length_append, List.length_take]
            exact Nat.add_le_add (Nat.min_le_left _ _) (by cases stepsLeft? task.2 <;> simp)
          rw [hroom, List.drop_append, List.drop_eq_nil_of_le hinside, List.nil_append] at hother
          exact houtside other (List.mem_of_mem_drop hother)
        · have hsteps := congrArg List.length (flatMap_stepsLeft? task.2)
          rw [List.flatMap_cons, ← List.take_append_drop more rest] at hn
          simp only [List.flatMap_append, List.length_append, allSteps, List.length_cons]
            at hn hsteps ⊢
          omega
      rw [List.replicate_succ, weave_of_turn hturn, List.tail_cons,
        toBeListed_cons (hopens task List.mem_cons_self) houtside, ← hlater]
      cases hlisted : task.1.listed? <;> simp [Turn.leave, hlisted]

/-- **In fair turns, the spaces are listed in their order.** Each of them has its two turns, and
three more for every document. -/
theorem listOrder_fair (room : Nat) (spaces : List (κ × List String)) :
    listOrder room (spaces.flatMap fun space => List.replicate (2 + 3 * space.2.length) 0) spaces =
      spaces.map (·.1) := by
  have hturns : (spaces.flatMap fun space => List.replicate (2 + 3 * space.2.length) 0) =
      List.replicate ((spaces.map spaceTurns).flatMap allSteps).length 0 := by
    rw [List.flatMap_map, List.eq_replicate_iff]
    refine ⟨?_, ?_⟩
    · simp only [List.length_flatMap, List.length_replicate, length_spaceTurns]
    · intro number hnumber
      obtain ⟨space, -, hnumber⟩ := List.mem_flatMap.1 hnumber
      exact List.eq_of_mem_replicate hnumber
  rw [listOrder, turnOrder, hturns, listed?_weave_fair]
  · have hlisted : (spaces.map spaceTurns).filterMap (·.1.listed?) = [] := by
      rw [List.filterMap_map]
      exact List.filterMap_eq_nil_iff.2 fun _ _ => rfl
    rw [toBeListed, hlisted, List.nil_append, List.filterMap_map]
    exact congrFun List.filterMap_eq_map spaces
  · intro task htask
    obtain ⟨space, -, rfl⟩ := List.mem_map.1 htask
    exact opensOnce_spaceTurns space
  · intro task htask
    obtain ⟨space, -, rfl⟩ := List.mem_map.1 (List.mem_of_mem_drop htask)
    rfl
  · exact Nat.le_refl _

end SpaceMigration
