import SpaceMigration.Job.Snapshot
import SpaceMigration.Proofs.JsonRecords
import SpaceMigration.Proofs.TimeText

/-!
# A log is read as it was written

The audit record of a job holds the log of the job as text. The text is that of plain values with
known fields, one of which may be left out, so it is read back as the log: every message, every time
and every trace, whatever strings they hold.

## Main results

* `LogEvent.ofJson?_toJson` — an event is read as it is laid out
* `JobSnapshot.parse_logText` — the text of a log is read as the log
-/

namespace SpaceMigration

open Json

theorem LogLevel.ofName?_name (level : LogLevel) : ofName? level.name = some level := by
  cases level <;> decide

theorem Timestamp.ofJson?_toJson (t : Timestamp) : ofJson? t.toJson = some t := by
  rw [ofJson?, toJson, Value.asText_text, Option.bind_some, readLenient_toText]

namespace LogEvent

/-- **An event is read as it is laid out**, with or without a trace. -/
theorem ofJson?_toJson (e : LogEvent) : ofJson? e.toJson = some e := by
  obtain ⟨level, timestamp, message, trace⟩ := e
  have hlevel : (Value.text level.name).asName.bind LogLevel.ofName? = some level :=
    level.ofName?_name
  have hshort : ["level", "timestamp", "message"].Sublist
      ["level", "timestamp", "message", "trace"] := by decide
  have hlong : ["level", "timestamp", "message", "trace"].Nodup := by decide
  rw [ofJson?, toJson]
  cases trace with
  | none =>
    rw [Value.fields?_record_of_sublist]
    · simp [Fields.required, Fields.withDefault, Fields.get?, StringMap.lookup, hlevel,
        Timestamp.ofJson?_toJson]
    · exact hshort
    · exact hlong
  | some frames =>
    have hframes : (Value.texts frames).asOption (·.asList (·.asText)) = some (some frames) :=
      congrArg (Option.map some) (Value.asList_map Value.asText_text frames)
    rw [Value.fields?_record]
    · simp [Fields.required, Fields.withDefault, Fields.get?, StringMap.lookup, hlevel,
        Timestamp.ofJson?_toJson, hframes]
    · rfl
    · exact hlong

theorem toJson_plain (e : LogEvent) : e.toJson.Plain := by
  refine .record ?_
  intro field hfield
  rcases List.mem_append.1 hfield with hfield | hfield
  · simp only [List.mem_cons, List.not_mem_nil, or_false] at hfield
    rcases hfield with rfl | rfl | rfl <;> exact .text _
  · rw [Option.mem_toList, Option.map_eq_some_iff] at hfield
    obtain ⟨frames, -, rfl⟩ := hfield
    exact .map .text frames

end LogEvent

/-- **The text of a log is read as the log.** -/
theorem JobSnapshot.parse_logText (job : JobSnapshot) :
    (Value.parse? job.logText).bind (·.asList LogEvent.ofJson?) = some job.log := by
  have hplain : (Value.array (job.log.map LogEvent.toJson)).Plain := .map LogEvent.toJson_plain _
  rw [logText, LogEvent.listText, hplain.parse?_compact, Option.bind_some,
    Value.asList_map LogEvent.ofJson?_toJson]

end SpaceMigration
