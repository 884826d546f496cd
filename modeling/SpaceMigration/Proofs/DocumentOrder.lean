import Mathlib.Data.List.Basic
import SpaceMigration.Proofs.TurnOrder

/-!
# The order of documents

In which order the documents of several spaces are migrated, and in which order the spaces are
listed and end, if nothing ends the run early. All of this follows from the turns (`turnOrder`),
because the number of turns of a space follows from its documents: one to enter, one to list, and
three for each document, with the third of which the document is through. The space ends with its
last turn.

Whatever the turns, every document comes once for each time it is listed, those of one space in
their order, and every space ends once. With room for one space at once there is one order only.

## Main definitions

* `SpaceTurn`, `spaceTurns` — what the turns of a space are about
* `documentOrder`, `listOrder`, `endOrder` — documents, listings and ends among the turns of all
  spaces

## Main results

* `documentOrder_perm`, `sublist_documentOrder`, `documentOrder_of_room_le_one`
* `endOrder_perm`, `endOrder_of_room_le_one`
-/

namespace SpaceMigration

variable {κ ι : Type}

/-! ### The turns of a space -/

/-- What a turn of a space is about. -/
inductive TurnStage where
  | enters
  | lists
  /-- A document is looked at or loaded. -/
  | works
  /-- A document is through. -/
  | settles (documentId : String)

/-- A turn of a space. -/
structure SpaceTurn (κ : Type) where
  space : κ
  stage : TurnStage
  /-- The space ends with this turn. -/
  last : Bool

namespace SpaceTurn

/-- The document that is through with the turn. -/
def document? (turn : SpaceTurn κ) : Option (κ × String) :=
  match turn.stage with
  | .settles documentId => some (turn.space, documentId)
  | _ => none

/-- The space that is listed in the turn. -/
def listed? (turn : SpaceTurn κ) : Option κ :=
  match turn.stage with
  | .lists => some turn.space
  | _ => none

/-- The space that ends with the turn. -/
def ended? (turn : SpaceTurn κ) : Option κ :=
  if turn.last then some turn.space else none

/-- The same turn of a space with another name. -/
def map (f : κ → ι) (turn : SpaceTurn κ) : SpaceTurn ι :=
  ⟨f turn.space, turn.stage, turn.last⟩

end SpaceTurn

/-- The turns of the documents of a space. -/
def documentTurns (space : κ) : List String → List (SpaceTurn κ)
  | [] => []
  | documentId :: rest =>
    ⟨space, .works, false⟩ :: ⟨space, .works, false⟩ ::
      ⟨space, .settles documentId, rest.isEmpty⟩ :: documentTurns space rest

/-- All turns of a space with the documents. -/
def spaceTurns (space : κ × List String) : SpaceTurn κ × List (SpaceTurn κ) :=
  (⟨space.1, .enters, false⟩,
    ⟨space.1, .lists, space.2.isEmpty⟩ :: documentTurns space.1 space.2)

theorem filterMap_document?_documentTurns (space : κ) (documentIds : List String) :
    (documentTurns space documentIds).filterMap SpaceTurn.document? =
      documentIds.map fun documentId => (space, documentId) := by
  induction documentIds with
  | nil => rfl
  | cons documentId rest ih => exact congrArg ((space, documentId) :: ·) ih

/-- The turns of the documents of a space bring its end, if there are any. -/
theorem filterMap_ended?_documentTurns (space : κ) (documentIds : List String) :
    (documentTurns space documentIds).filterMap SpaceTurn.ended? =
      if documentIds.isEmpty then [] else [space] := by
  induction documentIds with
  | nil => rfl
  | cons documentId rest ih => cases rest <;> simp_all [documentTurns, SpaceTurn.ended?]

theorem filterMap_document?_spaceTurns (space : κ × List String) :
    (allSteps (spaceTurns space)).filterMap SpaceTurn.document? =
      space.2.map fun documentId => (space.1, documentId) :=
  filterMap_document?_documentTurns space.1 space.2

theorem filterMap_ended?_spaceTurns (space : κ × List String) :
    (allSteps (spaceTurns space)).filterMap SpaceTurn.ended? = [space.1] := by
  rw [allSteps, spaceTurns, List.filterMap_cons_none rfl]
  cases hids : space.2 with
  | nil => rfl
  | cons documentId rest =>
    exact (List.filterMap_cons_none rfl).trans (filterMap_ended?_documentTurns space.1 _)

theorem spaceTurns_map (f : κ → ι) (space : κ × List String) :
    spaceTurns (space.map f id) =
      (spaceTurns space).map (SpaceTurn.map f) (List.map (SpaceTurn.map f)) := by
  have hdocuments (documentIds : List String) :
      documentTurns (f space.1) documentIds =
        (documentTurns space.1 documentIds).map (SpaceTurn.map f) := by
    induction documentIds with
    | nil => rfl
    | cons documentId rest ih => simp [documentTurns, SpaceTurn.map, ih]
  simp [spaceTurns, SpaceTurn.map, hdocuments]

/-! ### The turns of all spaces -/

/-- The turns of spaces with their documents. -/
def turnOrder (room : Nat) (turns : List Nat) (spaces : List (κ × List String)) :
    List (SpaceTurn κ) :=
  weave room turns (spaces.map spaceTurns)

/-- The documents of the spaces, in the order in which they are through. -/
def documentOrder (room : Nat) (turns : List Nat) (spaces : List (κ × List String)) :
    List (κ × String) :=
  (turnOrder room turns spaces).filterMap SpaceTurn.document?

/-- The spaces, in the order in which they are listed. -/
def listOrder (room : Nat) (turns : List Nat) (spaces : List (κ × List String)) : List κ :=
  (turnOrder room turns spaces).filterMap SpaceTurn.listed?

/-- The spaces, in the order in which they end. -/
def endOrder (room : Nat) (turns : List Nat) (spaces : List (κ × List String)) : List κ :=
  (turnOrder room turns spaces).filterMap SpaceTurn.ended?

variable (room : Nat) (turns : List Nat) (spaces : List (κ × List String))

/-- Every document of every space, one space after another. -/
theorem filterMap_document?_flatMap :
    ((spaces.map spaceTurns).flatMap allSteps).filterMap SpaceTurn.document? =
      spaces.flatMap fun space => space.2.map fun documentId => (space.1, documentId) := by
  rw [List.flatMap_map, List.filterMap_flatMap]
  exact List.flatMap_congr fun space _ => filterMap_document?_spaceTurns space

theorem filterMap_ended?_flatMap :
    ((spaces.map spaceTurns).flatMap allSteps).filterMap SpaceTurn.ended? =
      spaces.map (·.1) := by
  rw [List.flatMap_map, List.filterMap_flatMap, ← List.flatMap_singleton' (spaces.map (·.1)),
    List.flatMap_map]
  exact List.flatMap_congr fun space _ => filterMap_ended?_spaceTurns space

/-- **Every document of every space comes**, once for each time it is listed. -/
theorem documentOrder_perm :
    (documentOrder room turns spaces).Perm
      (spaces.flatMap fun space => space.2.map fun documentId => (space.1, documentId)) := by
  rw [← filterMap_document?_flatMap]
  exact (weave_perm room turns _).filterMap _

/-- **The documents of one space come in their order.** -/
theorem sublist_documentOrder {space : κ × List String} (h : space ∈ spaces) :
    (space.2.map fun documentId => (space.1, documentId)).Sublist
      (documentOrder room turns spaces) := by
  rw [← filterMap_document?_spaceTurns]
  exact (sublist_weave room turns (List.mem_map_of_mem h)).filterMap _

/-- **With room for one space, its documents come before those of the next.** -/
theorem documentOrder_of_room_le_one {room : Nat} (hroom : room ≤ 1) :
    documentOrder room turns spaces =
      spaces.flatMap fun space => space.2.map fun documentId => (space.1, documentId) := by
  rw [documentOrder, turnOrder, weave_of_room_le_one hroom, filterMap_document?_flatMap]

/-- Without turns, the documents of one space come before those of the next. -/
theorem documentOrder_nil : documentOrder room [] spaces =
    spaces.flatMap fun space => space.2.map fun documentId => (space.1, documentId) :=
  filterMap_document?_flatMap spaces

/-- **Every space ends**, once. -/
theorem endOrder_perm : (endOrder room turns spaces).Perm (spaces.map (·.1)) := by
  rw [← filterMap_ended?_flatMap]
  exact (weave_perm room turns _).filterMap _

theorem endOrder_nil : endOrder room [] spaces = spaces.map (·.1) :=
  filterMap_ended?_flatMap spaces

/-- The order does not depend on the names of the spaces. -/
theorem documentOrder_map (f : κ → ι) :
    documentOrder room turns (spaces.map (Prod.map f id)) =
      (documentOrder room turns spaces).map (Prod.map f id) := by
  have hsame (turn : SpaceTurn κ) :
      (turn.map f).document? = turn.document?.map (Prod.map f id) := by
    obtain ⟨space, stage, last⟩ := turn
    cases stage <;> rfl
  have hspaces : (spaces.map (Prod.map f id)).map spaceTurns =
      (spaces.map spaceTurns).map (Prod.map (SpaceTurn.map f) (List.map (SpaceTurn.map f))) := by
    rw [List.map_map, List.map_map]
    exact List.map_congr_left fun space _ => spaceTurns_map f space
  rw [documentOrder, turnOrder, hspaces, weave_map, List.filterMap_map, documentOrder, turnOrder,
    List.map_filterMap]
  exact List.filterMap_congr fun turn _ => hsame turn

end SpaceMigration
