import SpaceMigration.Audit.Record
import SpaceMigration.Proofs.LogText

/-!
# Snapshots and audit records are read as they were written

A snapshot nests references, selections, an answer made of pairs, results with their counters and
the log; an audit record holds optional parts and the text of a log. Each part is read as it is laid
out, and each layout is plain, so the compact text of the whole is read as the whole
(`Json.Value.Plain.read_compact`).

A number is laid out whatever its size and read as a counter, so the numbers of the results are
where a snapshot can differ from what is read: `JobSnapshot.Counted` is what they have to satisfy,
and it is not only enough but needed (`JobSnapshot.read_compact_iff`).

## Main definitions

* `SpaceResult.Counted`, `JobSnapshot.Counted` — the numbers are counters

## Main results

* `JobSnapshot.read_compact_iff` — a snapshot is read as it was written exactly when it is counted
* `AuditRecord.ofJson?_toJson` — a record is read as it is laid out
* `audit_trail_reads_back` — snapshots, records, lists of events and the log of a snapshot
-/

namespace SpaceMigration

open Json

/-! ### The request and the answer -/

@[simp] theorem EntityReference.ofJson?_toJson (r : EntityReference) :
    ofJson? r.toJson = some r := rfl

theorem EntityReference.toJson_plain (r : EntityReference) : r.toJson.Plain :=
  .text r.path

@[simp] theorem SpaceSelection.ofJson?_toJson (s : SpaceSelection) :
    ofJson? s.toJson = some s := by
  rw [ofJson?, toJson, Value.fields?_record]
  · simp [Fields.required, Fields.get?, StringMap.lookup]
  · rfl
  · decide

theorem SpaceSelection.toJson_plain (s : SpaceSelection) : s.toJson.Plain :=
  .record (by simp [Value.Plain.text])

@[simp] theorem MigrationRequest.ofJson?_toJson (r : MigrationRequest) :
    ofJson? r.toJson = some r := by
  rw [ofJson?, toJson, Value.fields?_record]
  · simp [Fields.required, Fields.get?, StringMap.lookup,
      Value.asList_map SpaceSelection.ofJson?_toJson]
  · rfl
  · decide

theorem MigrationRequest.toJson_plain (r : MigrationRequest) : r.toJson.Plain :=
  .record (by simp [EntityReference.toJson_plain, Value.Plain.map SpaceSelection.toJson_plain])

namespace SpaceAnswer

/-- The layout of an entry of an answer. -/
def entryJson (entry : SpaceSelection × EntityReference) : Value :=
  .array [entry.1.toJson, entry.2.toJson]

theorem asPair_entryJson (entry : SpaceSelection × EntityReference) :
    (entryJson entry).asPair SpaceSelection.ofJson? EntityReference.ofJson? = some entry := by
  simp [entryJson, Value.asPair]

theorem entryJson_plain (entry : SpaceSelection × EntityReference) : (entryJson entry).Plain :=
  .array (by simp [SpaceSelection.toJson_plain, EntityReference.toJson_plain])

theorem toJson_eq (answer : SpaceAnswer) :
    answer.toJson = .record [("entries", .array (answer.entries.map entryJson))] := rfl

@[simp] theorem ofJson?_toJson (answer : SpaceAnswer) : ofJson? answer.toJson = some answer := by
  rw [ofJson?, toJson_eq, Value.fields?_record]
  · simp [Fields.required, Fields.get?, StringMap.lookup, Value.asList_map asPair_entryJson]
  · rfl
  · decide

theorem toJson_plain (answer : SpaceAnswer) : answer.toJson.Plain := by
  rw [toJson_eq]
  exact .record (by simp [Value.Plain.map entryJson_plain])

end SpaceAnswer

/-! ### The results -/

namespace SpaceResult

/-- The numbers of a result are counters. -/
def Counted (r : SpaceResult) : Prop :=
  r.documentsMigrated ≤ Value.counterMax ∧ r.documentsFailed ≤ Value.counterMax

instance (r : SpaceResult) : Decidable r.Counted :=
  inferInstanceAs (Decidable (_ ∧ _))

/-- What is read from the layout of a result: the result with its numbers as they are read. -/
theorem ofJson?_toJson_eq (r : SpaceResult) :
    ofJson? r.toJson = do
      let documentsMigrated ← (Value.natural r.documentsMigrated).asCounter
      let documentsFailed ← (Value.natural r.documentsFailed).asCounter
      return { r with documentsMigrated, documentsFailed } := by
  rw [ofJson?, toJson, Value.fields?_record]
  · simp only [Fields.required, Fields.get?, StringMap.lookup, String.reduceEq, ↓reduceIte,
      Option.bind_eq_bind, Option.bind_some, SpaceSelection.ofJson?_toJson,
      EntityReference.ofJson?_toJson]
  · rfl
  · decide

/-- **A result is read as it is laid out** if its numbers are counters, and not at all
otherwise. -/
theorem ofJson?_toJson (r : SpaceResult) :
    ofJson? r.toJson = if r.Counted then some r else none := by
  have hread (n : Nat) : (Value.natural n).asCounter =
      if n ≤ Value.counterMax then some n else none := rfl
  rw [ofJson?_toJson_eq, hread, hread]
  by_cases hmigrated : r.documentsMigrated ≤ Value.counterMax
  · by_cases hfailed : r.documentsFailed ≤ Value.counterMax
    · rw [if_pos hmigrated, if_pos hfailed, if_pos ⟨hmigrated, hfailed⟩]
      rfl
    · have hcounted : ¬ r.Counted := fun h => hfailed h.2
      rw [if_pos hmigrated, if_neg hfailed, if_neg hcounted]
      rfl
  · have hcounted : ¬ r.Counted := fun h => hmigrated h.1
    rw [if_neg hmigrated, if_neg hcounted]
    rfl

theorem toJson_plain (r : SpaceResult) : r.toJson.Plain :=
  .record (by simp [SpaceSelection.toJson_plain, EntityReference.toJson_plain, Value.Plain.natural])

/-- A list of results is read as it is laid out exactly when every number is a counter. -/
theorem asList_toJson_eq_some_iff (results : List SpaceResult) :
    (Value.array (results.map toJson)).asList ofJson? = some results ↔
      ∀ r ∈ results, r.Counted := by
  rw [Value.asList]
  induction results with
  | nil => simp
  | cons r rest ih =>
    rw [List.map_cons, List.mapM_cons, ofJson?_toJson, List.forall_mem_cons, ← ih]
    by_cases h : r.Counted
    · simp [h, Option.bind_eq_some_iff]
    · simp [h]

end SpaceResult

/-! ### Snapshots -/

theorem JobState.ofName?_name (state : JobState) : ofName? state.name = some state := by
  cases state <;> decide

theorem Timestamp.toJson_plain (t : Timestamp) : t.toJson.Plain :=
  .text t.toText

namespace JobSnapshot

/-- The numbers of the results are counters. -/
def Counted (job : JobSnapshot) : Prop :=
  ∀ r ∈ job.results, r.Counted

instance (job : JobSnapshot) : Decidable job.Counted :=
  inferInstanceAs (Decidable (∀ r ∈ job.results, r.Counted))

/-- What is read from the layout of a snapshot: the snapshot with the results as they are read. -/
theorem ofJson?_toJson_eq (job : JobSnapshot) :
    ofJson? job.toJson = do
      let results ← (Value.array (job.results.map SpaceResult.toJson)).asList SpaceResult.ofJson?
      return { job with results } := by
  have hstate : (Value.text job.state.name).asName.bind JobState.ofName? = some job.state :=
    job.state.ofName?_name
  rw [ofJson?, toJson, Value.fields?_record]
  · simp [Fields.required, Fields.get?, StringMap.lookup, hstate, Timestamp.ofJson?_toJson,
      Value.asList_map LogEvent.ofJson?_toJson]
  · rfl
  · decide

theorem toJson_plain (job : JobSnapshot) : job.toJson.Plain :=
  .record (by simp [Value.Plain.text, MigrationRequest.toJson_plain, SpaceAnswer.toJson_plain,
    Value.Plain.map SpaceResult.toJson_plain, Value.Plain.map LogEvent.toJson_plain,
    Timestamp.toJson_plain])

/-- **A snapshot is read as it was written** exactly when its numbers are counters. -/
theorem read_compact_iff (job : JobSnapshot) :
    (Value.parse? job.toJson.compact).bind ofJson? = some job ↔ job.Counted := by
  rw [job.toJson_plain.read_compact, ofJson?_toJson_eq, Counted,
    ← SpaceResult.asList_toJson_eq_some_iff, Option.bind_eq_bind, Option.bind_eq_some_iff]
  constructor
  · rintro ⟨results, hread, hjob⟩
    rw [hread, ← congrArg JobSnapshot.results (Option.some.inj hjob)]
  · intro hread
    exact ⟨job.results, hread, rfl⟩

end JobSnapshot

/-! ### Audit records -/

namespace AuditRecord

/-- **A record is read as it is laid out**, whichever of its optional parts it has. -/
theorem ofJson?_toJson (r : AuditRecord) : ofJson? r.toJson = some r := by
  have houtcome : (Value.text? (r.outcome.map JobOutcome.name)).asOption
      (·.asName.bind JobOutcome.ofName?) = some r.outcome := by
    cases r.outcome with
    | none => rfl
    | some outcome => exact congrArg (Option.map some) outcome.ofName?_name
  have htime : ((r.executedAt.map Timestamp.toJson).getD .null).asOption Timestamp.ofJson? =
      some r.executedAt :=
    Value.asOption_getD Timestamp.ofJson?_toJson (fun _ => nofun) r.executedAt
  rw [ofJson?, toJson, Value.fields?_record]
  · simp [Fields.required, Fields.optional, Fields.get?, StringMap.lookup, Value.asBool, houtcome,
      htime, Value.asList_map EntityReference.ofJson?_toJson]
  · rfl
  · decide

theorem toJson_plain (r : AuditRecord) : r.toJson.Plain :=
  .record (by simp [EntityReference.toJson_plain, Value.Plain.bool, Value.Plain.text,
    Value.Plain.text?, Value.Plain.map EntityReference.toJson_plain,
    Value.Plain.getD Timestamp.toJson_plain])

end AuditRecord

/-! ### The audit trail -/

/-- **The audit trail is read as it was written.** A snapshot whose numbers are counters, an audit
record and a list of events are each read from their compact text; in particular the log text of a
snapshot, which is all that an audit record keeps of the log, is read as the log. -/
theorem audit_trail_reads_back (job : JobSnapshot) (hcounted : job.Counted) (record : AuditRecord)
    (events : List LogEvent) :
    (Value.parse? job.toJson.compact).bind JobSnapshot.ofJson? = some job ∧
    (Value.parse? record.toJson.compact).bind AuditRecord.ofJson? = some record ∧
    (Value.parse? (LogEvent.listText events)).bind (·.asList LogEvent.ofJson?) = some events ∧
    (Value.parse? job.logText).bind (·.asList LogEvent.ofJson?) = some job.log := by
  have hevents : (Value.array (events.map LogEvent.toJson)).Plain := .map LogEvent.toJson_plain _
  refine ⟨job.read_compact_iff.2 hcounted, ?_, ?_, job.parse_logText⟩
  · rw [record.toJson_plain.read_compact, record.ofJson?_toJson]
  · rw [LogEvent.listText, hevents.read_compact, Value.asList_map LogEvent.ofJson?_toJson]

/-- The trail of a job that started before the first year, ended on a leap second of a year with
five digits, counted as far as counters go and logged a message full of escapes. -/
theorem audit_trail_of_leap_second_reads_back :
    let started : Timestamp := ⟨⟨-1, 2, 28, by decide⟩, 23, 59, 59, 120, by decide⟩
    let finished : Timestamp := ⟨⟨10000, 6, 30, by decide⟩, 23, 59, 59, 1500000000, by decide⟩
    let space : SpaceSelection := ⟨"E\"\\N\nG", ""⟩
    let failure : LogEvent := ⟨.error, finished, "cannot read \t\r\x00 \"é\"", some ["a", "\\"]⟩
    let request : MigrationRequest := ⟨⟨"Audit"⟩, ⟨"Migrated"⟩, [space]⟩
    let job : JobSnapshot :=
      ⟨"job-1", migrationJobType, request, ⟨[(space, ⟨"Migrated.ENG"⟩)]⟩, .finishedSuccess,
        [⟨space, ⟨"Migrated.ENG"⟩, 0, Value.counterMax⟩], [failure], started, finished⟩
    let record := AuditRecord.ofSnapshot job finished
    job.Counted ∧ (Value.parse? job.toJson.compact).bind JobSnapshot.ofJson? = some job ∧
      (Value.parse? record.toJson.compact).bind AuditRecord.ofJson? = some record ∧
      (Value.parse? job.logText).bind (·.asList LogEvent.ofJson?) = some [failure] := by
  intro started finished space failure request job record
  have hcounted : job.Counted := by decide
  obtain ⟨hjob, hrecord, -, hlog⟩ := audit_trail_reads_back job hcounted record []
  exact ⟨hcounted, hjob, hrecord, hlog⟩

end SpaceMigration
