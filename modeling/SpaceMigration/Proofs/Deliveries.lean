import SpaceMigration.Proofs.AuditProgram
import SpaceMigration.Proofs.AuditRows

/-!
# Deliveries that race for an audit record

Several deliveries work on one store at a time. Each is the program of its recording
(`delivery`), each of whose steps is atomic; the steps of different deliveries, and the creation of
rows, may come in any order. A `Race` is the store with what the deliveries still have to do, and a
run is any list of moves: fair or not, complete or not.

## The invariant

As long as the record of a document waits, its deliveries are in their first two stages
(`Undecided`). The first of them to save wins, and from then on the stored record is that of the
winner, and every other delivery is on its way to being judged by it (`Decided`). No other delivery
can write, because saving looks at the row again in the same atomic step.

## Main results

* `AuditProgram.runIn_step` — taken alone, the steps of a program come to what its run comes to
* `Race.start_completes` — three steps of its own complete a delivery
* `Race.run_valid` — the invariant holds throughout
* `Race.one_delivery_records` — one delivery records, and the others are judged by it
-/

namespace SpaceMigration

open Completion

/-! ### Atomic steps -/

/-- One atomic step of a program on a store. A program that is done stays as it is. -/
def AuditProgram.step {α : Type} (now : Timestamp) :
    AuditProgram α → Store → AuditProgram α × Store
  | done a, store => (done a, store)
  | load document next, store => (next (store.loadRecord document), store)
  | save record next, store =>
    (next (store.saveExecuted now record).1, (store.saveExecuted now record).2)

/-- A step does not change what a program comes to when nothing else happens. -/
theorem AuditProgram.runIn_step {α : Type} (now : Timestamp) (program : AuditProgram α)
    (store : Store) :
    ((program.step now store).1.runIn (Store.asAuditStore now)).run (program.step now store).2 =
      (program.runIn (Store.asAuditStore now)).run store := by
  cases program <;> rfl

/-- Every step of a program is one less to take. -/
theorem AuditProgram.EndsWithin.step {α : Type} {n : Nat} {program : AuditProgram α}
    (h : program.EndsWithin n) (now : Timestamp) (store : Store) :
    (program.step now store).1.EndsWithin (n - 1) := by
  cases h with
  | done _ a => exact .done _ a
  | load h => exact h _
  | save h => exact h _

section

variable {now : Timestamp} {record existing : AuditRecord} {store : Store}

theorem step_waiting_of_unexecuted
    (h : store.loadRecord record.document = .ok (some existing))
    (hexisting : existing.executed = false) :
    (waiting record).step now store = (saving record, store) := by
  simp [waiting, AuditProgram.step, h, hexisting]

theorem step_waiting_of_executed (h : store.loadRecord record.document = .ok (some existing))
    (hexisting : existing.executed = true) :
    (waiting record).step now store = (.done (judge existing record), store) := by
  simp [waiting, AuditProgram.step, h, hexisting]

theorem step_saving_of_unexecuted (hrecord : record.executed = true)
    (h : store.loadRecord record.document = .ok (some existing))
    (hexisting : existing.executed = false) :
    (saving record).step now store = (.done (.ok .recorded), store.written now record) := by
  obtain ⟨row, hrow, hexecuted⟩ := Store.exists_row_of_loadRecord h
  have hsave : store.saveExecuted now record = (.ok true, store.written now record) :=
    Store.saveExecuted_of_unexecuted hrecord hrow (hexecuted.trans hexisting)
  simp [saving, AuditProgram.step, hsave]

theorem step_saving_of_executed (hrecord : record.executed = true)
    (h : store.loadRecord record.document = .ok (some existing))
    (hexisting : existing.executed = true) :
    (saving record).step now store = (reloading record, store) := by
  obtain ⟨row, hrow, hexecuted⟩ := Store.exists_row_of_loadRecord h
  have hsave : store.saveExecuted now record = (.ok false, store) :=
    Store.saveExecuted_of_executed hrecord hrow (hexecuted.trans hexisting)
  simp [saving, AuditProgram.step, hsave]

theorem step_reloading (h : store.loadRecord record.document = .ok (some existing)) :
    (reloading record).step now store = (.done (judge existing record), store) := by
  simp [reloading, AuditProgram.step, h, settle]

/-- Saving a record leaves the records of other documents alone. -/
theorem loadRecord_step_saving {document : EntityReference} (h : document ≠ record.document) :
    ((saving record).step now store).2.loadRecord document = store.loadRecord document := by
  have hpath : document.path ≠ record.document.path := by
    intro hpath
    exact h (congrArg EntityReference.mk hpath)
  change (store.saveExecuted now record).2.loadRecord document = _
  obtain ⟨e, hsave⟩ | ⟨row, -, ⟨-, hsave⟩ | ⟨-, hsave⟩⟩ := store.saveExecuted_cases now record
  · rw [hsave]
  · rw [hsave]
  · rw [hsave]
    exact Store.loadRecord_congr (by rw [Store.get?_written, if_neg hpath])

end

/-- A delivery of a signal: when its record is made, and what it still has to do. -/
structure Delivery where
  signal : JobFinished
  now : Timestamp
  rest : AuditProgram (Except MigrationError Completion)

namespace Delivery

/-- A delivery that begins. -/
def start (signal : JobFinished) (now : Timestamp) : Delivery :=
  ⟨signal, now, delivery now signal⟩

/-- The audit document of a delivery. -/
def document (d : Delivery) : EntityReference :=
  d.signal.job.request.auditDocument

/-- The record that a delivery offers. -/
def record (d : Delivery) : AuditRecord :=
  .ofSnapshot d.signal.job d.now

/-- The result of a delivery, once it is complete. -/
def result? (d : Delivery) : Option (Except MigrationError Completion) :=
  match d.rest with
  | .done result => some result
  | _ => none

/-- The delivery has not yet met an executed record. -/
def Tries (d : Delivery) : Prop :=
  d.rest = waiting d.record ∨ d.rest = saving d.record

/-- The delivery has lost against the stored record, or will. -/
def Loses (stored : AuditRecord) (d : Delivery) : Prop :=
  d.Tries ∨ d.rest = reloading d.record ∨ d.rest = .done (judge stored d.record)

/-- A losing delivery goes on losing, and does not touch the store. -/
theorem Loses.step {d : Delivery} {stored : AuditRecord} {store : Store} (h : d.Loses stored)
    (hstored : stored.executed = true) (hload : store.loadRecord d.document = .ok (some stored)) :
    ({ d with rest := (d.rest.step d.now store).1 } : Delivery).Loses stored ∧
      (d.rest.step d.now store).2 = store := by
  rcases h with (hrest | hrest) | hrest | hrest
  · have hstep : d.rest.step d.now store = (.done (judge stored d.record), store) := by
      rw [hrest]
      exact step_waiting_of_executed hload hstored
    exact ⟨.inr (.inr (congrArg Prod.fst hstep)), congrArg Prod.snd hstep⟩
  · have hstep : d.rest.step d.now store = (reloading d.record, store) := by
      rw [hrest]
      exact step_saving_of_executed rfl hload hstored
    exact ⟨.inr (.inl (congrArg Prod.fst hstep)), congrArg Prod.snd hstep⟩
  · have hstep : d.rest.step d.now store = (.done (judge stored d.record), store) := by
      rw [hrest]
      exact step_reloading hload
    exact ⟨.inr (.inr (congrArg Prod.fst hstep)), congrArg Prod.snd hstep⟩
  · have hstep : d.rest.step d.now store = (.done (judge stored d.record), store) := by
      rw [hrest]
      rfl
    exact ⟨.inr (.inr (congrArg Prod.fst hstep)), congrArg Prod.snd hstep⟩

end Delivery

/-- A store and the deliveries that work on it. -/
structure Race where
  store : Store
  deliveries : List Delivery

/-- What can happen next. -/
inductive Move where
  /-- The delivery at the position takes a step. -/
  | deliver (i : Nat)
  /-- The record of a document is created. -/
  | create (document : EntityReference)

/-- The move is a step of the delivery at the position. -/
def Move.isStepOf (i : Nat) : Move → Bool
  | .deliver j => j = i
  | .create _ => false

namespace Race

/-- The race after the delivery at the position has taken a step. -/
def deliver (race : Race) (i : Nat) (d : Delivery) : Race where
  store := (d.rest.step d.now race.store).2
  deliveries := race.deliveries.set i { d with rest := (d.rest.step d.now race.store).1 }

/-- The race after a move. There may be no delivery at the position. -/
def move (race : Race) : Move → Race
  | .deliver i =>
    match race.deliveries[i]? with
    | none => race
    | some d => race.deliver i d
  | .create document => { race with store := (race.store.createRecord document).2 }

/-- The race after a list of moves. -/
def run (race : Race) (moves : List Move) : Race :=
  moves.foldl move race

/-! ### The invariant -/

/-- The record of the document waits, and so do its deliveries. -/
structure Undecided (document : EntityReference) (race : Race) : Prop where
  stored : ∃ record, race.store.loadRecord document = .ok (some record) ∧ record.executed = false
  tries {i : Nat} {d : Delivery} : race.deliveries[i]? = some d → d.document = document → d.Tries

/-- One delivery has recorded, and the other deliveries of the document lose against it. -/
structure Decided (document : EntityReference) (race : Race) (i : Nat) (winner : Delivery) :
    Prop where
  position : race.deliveries[i]? = some winner
  document_eq : winner.document = document
  recorded : winner.rest = .done (.ok .recorded)
  stored : race.store.loadRecord document = .ok (some winner.record)
  loses {j : Nat} {d : Delivery} : j ≠ i → race.deliveries[j]? = some d → d.document = document →
    d.Loses winner.record

/-- The documents of all deliveries are undecided or decided. -/
structure Valid (race : Race) : Prop where
  plainYear {i : Nat} {d : Delivery} : race.deliveries[i]? = some d → d.now.HasPlainYear
  document {i : Nat} {d : Delivery} : race.deliveries[i]? = some d →
    race.Undecided d.document ∨ ∃ k winner, race.Decided d.document k winner

variable {race : Race} {document : EntityReference} {i k : Nat} {d winner : Delivery}

theorem getElem?_deliver {j : Nat} {e : Delivery}
    (he : (race.deliver i d).deliveries[j]? = some e) :
    j = i ∧ e = { d with rest := (d.rest.step d.now race.store).1 } ∨
      j ≠ i ∧ race.deliveries[j]? = some e := by
  rw [deliver, List.getElem?_set] at he
  split at he
  · next hij =>
    split at he
    · exact .inl ⟨hij.symm, (Option.some.inj he).symm⟩
    · cases he
  · next hij => exact .inr ⟨Ne.symm hij, he⟩

theorem getElem?_deliver_self (hd : race.deliveries[i]? = some d) :
    (race.deliver i d).deliveries[i]? =
      some { d with rest := (d.rest.step d.now race.store).1 } := by
  obtain ⟨hi, -⟩ := List.getElem?_eq_some_iff.1 hd
  rw [deliver, List.getElem?_set, if_pos rfl, if_pos hi]

theorem getElem?_deliver_of_ne {j : Nat} (h : j ≠ i) :
    (race.deliver i d).deliveries[j]? = race.deliveries[j]? := by
  rw [deliver, List.getElem?_set, if_neg (Ne.symm h)]

/-- A move takes a step of the delivery at a position, or leaves that delivery alone. -/
theorem getElem?_move (hd : race.deliveries[i]? = some d) (m : Move) :
    (race.move m).deliveries[i]? =
      some (if m.isStepOf i then { d with rest := (d.rest.step d.now race.store).1 } else d) := by
  cases m with
  | create created => exact hd
  | deliver j =>
    by_cases hji : j = i
    · subst hji
      simp [move, hd, Move.isStepOf, getElem?_deliver_self hd]
    · rw [move]
      split
      · simpa [Move.isStepOf, hji] using hd
      · simpa [Move.isStepOf, hji, getElem?_deliver_of_ne (Ne.symm hji)] using hd

/-! ### Steps of other documents -/

/-- A delivery of another document leaves the record alone, whatever stage it is in. -/
theorem Valid.loadRecord_deliver (h : race.Valid) (hd : race.deliveries[i]? = some d)
    (hne : document ≠ d.document) :
    (race.deliver i d).store.loadRecord document = race.store.loadRecord document := by
  have htries (h : d.Tries) :
      (race.deliver i d).store.loadRecord document = race.store.loadRecord document := by
    rw [deliver]
    rcases h with hrest | hrest
    · rw [hrest]
      rfl
    · rw [hrest]
      exact loadRecord_step_saving hne
  have hdone {result : Except MigrationError Completion} (hrest : d.rest = .done result) :
      (race.deliver i d).store.loadRecord document = race.store.loadRecord document := by
    rw [deliver, hrest]
    rfl
  rcases h.document hd with hundecided | ⟨k, winner, hdecided⟩
  · exact htries (hundecided.tries hd rfl)
  · by_cases hik : i = k
    · subst hik
      obtain rfl : d = winner := Option.some.inj (hd.symm.trans hdecided.position)
      exact hdone hdecided.recorded
    · rcases hdecided.loses hik hd rfl with h | hrest | hrest
      · exact htries h
      · rw [deliver, hrest]
        rfl
      · exact hdone hrest

theorem Undecided.deliver_other (h : race.Undecided document) (hne : d.document ≠ document)
    (hload : (race.deliver i d).store.loadRecord document = race.store.loadRecord document) :
    (race.deliver i d).Undecided document where
  stored := by
    rw [hload]
    exact h.stored
  tries he hdocument := by
    obtain ⟨-, rfl⟩ | ⟨-, he⟩ := getElem?_deliver he
    · exact absurd hdocument hne
    · exact h.tries he hdocument

theorem Decided.deliver_other (h : race.Decided document k winner)
    (hd : race.deliveries[i]? = some d) (hne : d.document ≠ document)
    (hload : (race.deliver i d).store.loadRecord document = race.store.loadRecord document) :
    (race.deliver i d).Decided document k winner where
  position := by
    have hki : k ≠ i := by
      rintro rfl
      obtain rfl : d = winner := Option.some.inj (hd.symm.trans h.position)
      exact hne h.document_eq
    rw [getElem?_deliver_of_ne hki]
    exact h.position
  document_eq := h.document_eq
  recorded := h.recorded
  stored := by
    rw [hload]
    exact h.stored
  loses hjk he hdocument := by
    obtain ⟨-, rfl⟩ | ⟨-, he⟩ := getElem?_deliver he
    · exact absurd hdocument hne
    · exact h.loses hjk he hdocument

/-! ### Steps of the document itself -/

/-- As long as the record waits, a step of one of its deliveries leaves it waiting or decides it. -/
theorem Undecided.deliver (h : race.Undecided d.document) (hd : race.deliveries[i]? = some d)
    (hyear : d.now.HasPlainYear) :
    (race.deliver i d).Undecided d.document ∨
      ∃ k winner, (race.deliver i d).Decided d.document k winner := by
  obtain ⟨existing, hload, hexisting⟩ := h.stored
  rcases h.tries hd rfl with hrest | hrest
  · have hstep : d.rest.step d.now race.store = (saving d.record, race.store) := by
      rw [hrest]
      exact step_waiting_of_unexecuted hload hexisting
    refine .inl ⟨⟨existing, ?_, hexisting⟩, ?_⟩
    · rw [Race.deliver, hstep]
      exact hload
    · intro j e he hdocument
      obtain ⟨-, rfl⟩ | ⟨-, he⟩ := getElem?_deliver he
      · exact .inr (congrArg Prod.fst hstep)
      · exact h.tries he hdocument
  · have hstep : d.rest.step d.now race.store =
        (.done (.ok .recorded), race.store.written d.now d.record) := by
      rw [hrest]
      exact step_saving_of_unexecuted rfl hload hexisting
    refine .inr ⟨i, _, getElem?_deliver_self hd, rfl, congrArg Prod.fst hstep, ?_, ?_⟩
    · rw [Race.deliver, hstep]
      exact Store.loadRecord_written d.now d.record race.store hyear
    · intro j e hji he hdocument
      obtain ⟨hji', -⟩ | ⟨-, he⟩ := getElem?_deliver he
      · exact absurd hji' hji
      · exact .inl (h.tries he hdocument)

/-- Once the record is decided, it stays decided, with the same winner. -/
theorem Decided.deliver (h : race.Decided d.document k winner)
    (hd : race.deliveries[i]? = some d) :
    (race.deliver i d).Decided d.document k winner := by
  by_cases hik : i = k
  · subst hik
    obtain rfl : d = winner := Option.some.inj (hd.symm.trans h.position)
    have hstep : d.rest.step d.now race.store = (d.rest, race.store) := by
      rw [h.recorded]
      rfl
    refine ⟨?_, rfl, h.recorded, ?_, ?_⟩
    · rw [getElem?_deliver_self hd, hstep]
    · rw [Race.deliver, hstep]
      exact h.stored
    · intro j e hji he hdocument
      obtain ⟨hji', -⟩ | ⟨-, he⟩ := getElem?_deliver he
      · exact absurd hji' hji
      · exact h.loses hji he hdocument
  · obtain ⟨hloses, hstore⟩ := Delivery.Loses.step (h.loses hik hd rfl) rfl h.stored
    refine ⟨?_, h.document_eq, h.recorded, ?_, ?_⟩
    · rw [getElem?_deliver_of_ne (Ne.symm hik)]
      exact h.position
    · rw [Race.deliver, hstore]
      exact h.stored
    · intro j e hjk he hdocument
      obtain ⟨-, rfl⟩ | ⟨-, he⟩ := getElem?_deliver he
      · exact hloses
      · exact h.loses hjk he hdocument

/-! ### Runs -/

theorem Valid.deliver (h : race.Valid) (hd : race.deliveries[i]? = some d) :
    (race.deliver i d).Valid := by
  have hyear := h.plainYear hd
  have hdocument {j : Nat} {e : Delivery} (he : race.deliveries[j]? = some e) :
      (race.deliver i d).Undecided e.document ∨
        ∃ k winner, (race.deliver i d).Decided e.document k winner := by
    by_cases hne : e.document = d.document
    · rw [hne]
      rcases h.document hd with hundecided | ⟨k, winner, hdecided⟩
      · exact hundecided.deliver hd hyear
      · exact .inr ⟨k, winner, hdecided.deliver hd⟩
    · have hload := h.loadRecord_deliver hd hne
      rcases h.document he with hundecided | ⟨k, winner, hdecided⟩
      · exact .inl (hundecided.deliver_other (Ne.symm hne) hload)
      · exact .inr ⟨k, winner, hdecided.deliver_other hd (Ne.symm hne) hload⟩
  constructor
  · intro j e he
    obtain ⟨-, rfl⟩ | ⟨-, he⟩ := getElem?_deliver he
    · exact hyear
    · exact h.plainYear he
  · intro j e he
    obtain ⟨-, rfl⟩ | ⟨-, he⟩ := getElem?_deliver he
    · have hsame := hdocument hd
      exact hsame
    · exact hdocument he

/-- Creating a record leaves alone those that are there. -/
theorem loadRecord_createRecord {store : Store} {record : AuditRecord} (created : EntityReference)
    (h : store.loadRecord document = .ok (some record)) :
    (store.createRecord created).2.loadRecord document = .ok (some record) := by
  obtain ⟨row, hrow, -⟩ := Store.exists_row_of_loadRecord h
  rw [Store.createRecord_snd, ← h]
  exact Store.loadRecord_congr (by rw [Store.get?_withAuditRow, hrow, Option.some_or])

theorem Valid.create (h : race.Valid) (created : EntityReference) :
    (race.move (.create created)).Valid := by
  refine ⟨h.plainYear, ?_⟩
  intro i d he
  rcases h.document he with hundecided | ⟨k, winner, hdecided⟩
  · obtain ⟨record, hload, hrecord⟩ := hundecided.stored
    exact .inl ⟨⟨record, loadRecord_createRecord created hload, hrecord⟩, hundecided.tries⟩
  · exact .inr ⟨k, winner, { hdecided with
      stored := loadRecord_createRecord created hdecided.stored }⟩

theorem Valid.move (h : race.Valid) (m : Move) : (race.move m).Valid := by
  cases m with
  | create created => exact h.create created
  | deliver i =>
    rw [Race.move]
    split
    · exact h
    · next d hd => exact h.deliver hd

theorem run_valid (h : race.Valid) (moves : List Move) : (race.run moves).Valid := by
  induction moves generalizing race with
  | nil => exact h
  | cons m moves ih => exact ih (h.move m)

/-- A race is always between the same deliveries. -/
theorem map_run (moves : List Move) :
    (race.run moves).deliveries.map (fun d => (d.signal, d.now)) =
      race.deliveries.map fun d => (d.signal, d.now) := by
  induction moves generalizing race with
  | nil => rfl
  | cons m moves ih =>
    refine (@ih (race.move m)).trans ?_
    cases m with
    | create created => rfl
    | deliver i =>
      rw [move]
      split
      · rfl
      · next d hd =>
        refine List.ext_getElem? ?_
        intro j
        rw [List.getElem?_map, List.getElem?_map]
        by_cases hji : j = i
        · subst hji
          rw [getElem?_deliver_self hd, hd]
          rfl
        · rw [getElem?_deliver_of_ne hji]

/-- **No delivery waits for another.** A delivery that has taken the steps of its program is
complete, whatever came between them. -/
theorem result?_isSome_of_steps {n : Nat} (moves : List Move) (hd : race.deliveries[i]? = some d)
    (h : d.rest.EndsWithin n) (hn : n ≤ moves.countP (·.isStepOf i)) :
    ∃ d', (race.run moves).deliveries[i]? = some d' ∧ d'.result?.isSome = true := by
  induction moves generalizing race d n with
  | nil =>
    obtain rfl : n = 0 := Nat.le_zero.1 hn
    refine ⟨d, hd, ?_⟩
    generalize hrest : d.rest = rest at h
    cases h
    rw [Delivery.result?, hrest]
    rfl
  | cons m moves ih =>
    have hmove := getElem?_move hd m
    rw [List.countP_cons] at hn
    split at hmove
    · next hstep =>
      rw [if_pos hstep] at hn
      exact ih hmove (h.step d.now race.store) (by omega)
    · next hstep =>
      rw [if_neg hstep] at hn
      exact ih hmove h hn

/-- Three steps of its own complete a delivery. -/
theorem start_completes {calls : List (JobFinished × Timestamp)} (store : Store)
    (moves : List Move) (hi : i < calls.length) (hthree : 3 ≤ moves.countP (·.isStepOf i)) :
    ∃ d, (Race.run ⟨store, calls.map fun call => .start call.1 call.2⟩ moves).deliveries[i]? =
        some d ∧ d.result?.isSome = true := by
  have hstart : (calls.map fun call => Delivery.start call.1 call.2)[i]? =
      some (.start calls[i].1 calls[i].2) := by
    rw [List.getElem?_map, List.getElem?_eq_getElem hi, Option.map_some]
  exact result?_isSome_of_steps moves hstart (delivery_endsWithin _ _) hthree

/-- Deliveries of finished migrations to waiting records begin a valid race. -/
theorem valid_start {calls : List (JobFinished × Timestamp)} {store : Store}
    (hcalls : ∀ call ∈ calls, call.1.jobType = migrationJobType ∧
      call.1.job.state.isTerminal = true ∧ call.2.HasPlainYear)
    (hrows : ∀ call ∈ calls, ∃ record, record.executed = false ∧
      store.loadRecord call.1.job.request.auditDocument = .ok (some record)) :
    Valid ⟨store, calls.map fun call => .start call.1 call.2⟩ := by
  have hstart {i : Nat} {d : Delivery}
      (hd : (calls.map fun call => Delivery.start call.1 call.2)[i]? = some d) :
      ∃ call ∈ calls, d = .start call.1 call.2 := by
    rw [List.getElem?_map, Option.map_eq_some_iff] at hd
    obtain ⟨call, hcall, rfl⟩ := hd
    exact ⟨call, List.mem_of_getElem? hcall, rfl⟩
  constructor
  · intro i d hd
    obtain ⟨call, hcall, rfl⟩ := hstart hd
    exact (hcalls call hcall).2.2
  · intro i d hd
    refine .inl ⟨?_, ?_⟩
    · obtain ⟨call, hcall, rfl⟩ := hstart hd
      obtain ⟨record, hrecord, hload⟩ := hrows call hcall
      exact ⟨record, hload, hrecord⟩
    · intro j e he _
      obtain ⟨call, hcall, rfl⟩ := hstart he
      obtain ⟨htype, hstate, -⟩ := hcalls call hcall
      exact .inl (delivery_eq_waiting (precheck_eq_none htype hstate))

/-- **One delivery records, and the others are judged by its record.** Deliveries of finished
migrations race for records that wait, in any order of their steps and of further creations. As soon
as a delivery of a document is complete, exactly one has recorded, and its record is the stored one.
Any other that is complete was told so: its run was recorded before if it has the same content, and
the document was executed already if it has not.

The clock shows a year that the stored format can hold. -/
theorem one_delivery_records (calls : List (JobFinished × Timestamp)) (store : Store)
    (moves : List Move) (document : EntityReference)
    (hcalls : ∀ call ∈ calls, call.1.jobType = migrationJobType ∧
      call.1.job.state.isTerminal = true ∧ call.2.HasPlainYear)
    (hrows : ∀ call ∈ calls, ∃ record, record.executed = false ∧
      store.loadRecord call.1.job.request.auditDocument = .ok (some record)) :
    let race := Race.run ⟨store, calls.map fun call => .start call.1 call.2⟩ moves
    race.deliveries.map (fun d => (d.signal, d.now)) = calls ∧
      ((∃ d ∈ race.deliveries, d.document = document ∧ d.result?.isSome = true) →
        ∃ (i : Nat) (winner : Delivery), race.deliveries[i]? = some winner ∧
          winner.document = document ∧ winner.result? = some (.ok .recorded) ∧
          race.store.loadRecord document = .ok (some winner.record) ∧
          ∀ (j : Nat) (d : Delivery) (result : Except MigrationError Completion), j ≠ i →
            race.deliveries[j]? = some d → d.document = document → d.result? = some result →
            if winner.record.sameContent d.record = true then result = .ok .alreadyRecorded
            else ∃ e, result = .error e ∧ e.kind = .alreadyExecuted) := by
  intro race
  have hvalid : race.Valid := run_valid (valid_start hcalls hrows) moves
  refine ⟨?_, ?_⟩
  · rw [map_run, List.map_map]
    exact List.map_id calls
  rintro ⟨d, hd, hdocument, hresult⟩
  have hnot {e : Delivery} (he : e.Tries) : e.result? = none := by
    rcases he with hrest | hrest <;> rw [Delivery.result?, hrest] <;> rfl
  obtain ⟨j, hj⟩ := List.getElem?_of_mem hd
  rcases hvalid.document hj with hundecided | ⟨i, winner, hdecided⟩
  · rw [hnot (hundecided.tries hj rfl)] at hresult
    cases hresult
  rw [hdocument] at hdecided
  refine ⟨i, winner, hdecided.position, hdecided.document_eq, ?_, hdecided.stored, ?_⟩
  · rw [Delivery.result?, hdecided.recorded]
  intro j e result hji he hdocument hresult
  rcases hdecided.loses hji he hdocument with htries | hrest | hrest
  · rw [hnot htries] at hresult
    cases hresult
  · rw [Delivery.result?, hrest] at hresult
    cases hresult
  · rw [Delivery.result?, hrest] at hresult
    obtain rfl := Option.some.inj hresult
    rw [judge]
    split
    · rfl
    · exact ⟨_, rfl, rfl⟩

/-- The signal of a job that ended without migrating anything. -/
def emptySignal (jobId : String) : JobFinished where
  jobType := migrationJobType
  job := {
    id := jobId
    jobType := migrationJobType
    request := ⟨⟨"Audit"⟩, ⟨"Migrated"⟩, []⟩
    answer := .empty
    state := .finishedSuccess
    results := []
    log := []
    startedAt := .epoch
    finishedAt := .epoch }

/-- Three signals race for one record, two of them of the same job: the second one overtakes the
first between its load and its save. -/
theorem one_delivery_records_of_three :
    let calls := [(emptySignal "job-1", .epoch), (emptySignal "job-2", .epoch),
      (emptySignal "job-2", .epoch)]
    let store := (Store.empty.createRecord ⟨"Audit"⟩).2
    let moves : List Move :=
      [.deliver 0, .deliver 1, .deliver 1, .deliver 0, .create ⟨"Audit"⟩, .deliver 2, .deliver 0]
    (∀ call ∈ calls, call.1.jobType = migrationJobType ∧
        call.1.job.state.isTerminal = true ∧ call.2.HasPlainYear) ∧
      (∀ call ∈ calls, ∃ record, record.executed = false ∧
        store.loadRecord call.1.job.request.auditDocument = .ok (some record)) ∧
      ∃ (i : Nat) (winner : Delivery),
        (Race.run ⟨store, calls.map fun call => .start call.1 call.2⟩ moves).deliveries[i]? =
          some winner ∧ winner.result? = some (.ok .recorded) := by
  intro calls store moves
  have hcalls : ∀ call ∈ calls, call.1.jobType = migrationJobType ∧
      call.1.job.state.isTerminal = true ∧ call.2.HasPlainYear := by
    simp [calls, emptySignal, JobState.isTerminal, Timestamp.HasPlainYear, Timestamp.epoch]
  have hload : store.loadRecord ⟨"Audit"⟩ = .ok (some (.unexecuted ⟨"Audit"⟩)) := by
    rfl
  have hrows : ∀ call ∈ calls, ∃ record, record.executed = false ∧
      store.loadRecord call.1.job.request.auditDocument = .ok (some record) := by
    simp [calls, emptySignal, hload, AuditRecord.unexecuted]
  obtain ⟨-, hdecided⟩ := one_delivery_records calls store moves ⟨"Audit"⟩ hcalls hrows
  obtain ⟨i, winner, hposition, -, hresult, -⟩ := hdecided (by decide +kernel)
  exact ⟨hcalls, hrows, i, winner, hposition, hresult⟩

end Race

end SpaceMigration
