import Mathlib.Order.Bounds.Defs
import SpaceMigration.Job.Log
import SpaceMigration.Proofs.TimeText

/-!
# A log is its calls, in order

A log is written by calls for one event each, and every call takes a reading of the clock. The clock
may go backwards. The log keeps only the time of its last event and stamps the next one with the
later of that time and the reading, so the time of the last event is the greatest reading so far:
this is the invariant behind `Logged`, and all that is said about the times of a log follows from
it.

## Main definitions

* `LogCall`, `JobLog.ofCalls` — calls to a log, and the log that they write
* `Logged` — events that report calls, each stamped with the greatest reading up to its own

## Main results

* `Timestamp.le_antisymm` — a set of times has at most one greatest
* `JobLog.logged_ofCalls` — what calls write is `Logged`
* `JobLog.ofCalls_reports_calls` — one event for each call, in order of time
-/

namespace SpaceMigration

/-! ### The order of times -/

namespace Timestamp

/-- The parts of a time are the digits of its position on the line. -/
theorem eq_of_rank_eq {a b : Timestamp} (h : a.rank = b.rank) : a = b := by
  obtain ⟨hhour, hminute, hsecond, hnanos⟩ := a.isTime_bounds
  obtain ⟨hhour', hminute', hsecond', hnanos'⟩ := b.isTime_bounds
  obtain ⟨hmonth, hday⟩ := date_bounds a.date
  obtain ⟨hmonth', hday'⟩ := date_bounds b.date
  rw [nanosPerSecond] at hnanos hnanos'
  rw [rank, rank, nanosPerSecond] at h
  have hyears : a.date.year = b.date.year := by omega
  have hmonths : a.date.month = b.date.month := by omega
  have hdays : a.date.day = b.date.day := by omega
  have hhours : a.hour = b.hour := by omega
  have hminutes : a.minute = b.minute := by omega
  have hseconds : a.second = b.second := by omega
  have hrest : a.nanos = b.nanos := by omega
  obtain ⟨⟨year, month, day, hdate⟩, hour, minute, second, nanos, htime⟩ := a
  obtain ⟨⟨year', month', day', hdate'⟩, hour', minute', second', nanos', htime'⟩ := b
  simp only at hyears hmonths hdays hhours hminutes hseconds hrest
  subst hyears hmonths hdays hhours hminutes hseconds hrest
  rfl

theorem le_antisymm {a b : Timestamp} (h : a ≤ b) (h' : b ≤ a) : a = b :=
  eq_of_rank_eq (Int.le_antisymm h h')

theorem le_trans {a b c : Timestamp} (h : a ≤ b) (h' : b ≤ c) : a ≤ c :=
  Int.le_trans h h'

/-- The later of a reading and the greatest reading before it is the greatest up to it. -/
theorem isGreatest_latest {readings : List Timestamp} {greatest : Timestamp}
    (h : IsGreatest {r | r ∈ readings} greatest) (now : Timestamp) :
    IsGreatest {r | r ∈ readings ++ [now]} (greatest.latest now) := by
  constructor
  · change greatest.latest now ∈ readings ++ [now]
    rw [latest]
    split
    · exact List.mem_append_left _ h.1
    · exact List.mem_append_right _ (List.mem_singleton_self now)
  · intro reading hreading
    rcases List.mem_append.1 hreading with hbefore | hnow
    · exact le_trans (h.2 hbefore) (le_latest_left _ _)
    · exact List.mem_singleton.1 hnow ▸ le_latest_right _ _

end Timestamp

/-! ### Calls and the events that report them -/

/-- A call to a log. -/
inductive LogCall where
  | debug (message : String)
  | info (message : String)
  | warn (message : String)
  | error (message : String) (cause : MigrationError)

namespace LogCall

/-- The level that a call writes at. -/
def level : LogCall → LogLevel
  | debug _ => .debug
  | info _ => .info
  | warn _ => .warn
  | error _ _ => .error

/-- The text that a call is given. -/
def text : LogCall → String
  | debug message | info message | warn message | error message _ => message

/-- The error that a call is given. -/
def cause? : LogCall → Option MigrationError
  | error _ cause => some cause
  | _ => none

/-- Makes a call when the clock reads `now`. -/
def write (call : LogCall) (now : Timestamp) (log : JobLog) : JobLog :=
  match call with
  | debug message => log.note now .debug message
  | info message => log.note now .info message
  | warn message => log.note now .warn message
  | error message cause => log.fail now message cause

/-- The message that a call writes: its text, followed by that of its cause. -/
def message : LogCall → String
  | error message cause => message ++ ": " ++ cause.message
  | call => call.text

/-- The event of a call at the given time. -/
def event (call : LogCall) (time : Timestamp) : LogEvent where
  level := call.level
  timestamp := time
  message := call.message
  trace := call.cause?.map MigrationError.trace

theorem events_write (call : LogCall) (now : Timestamp) (log : JobLog) :
    (call.write now log).events = log.events ++ [call.event (log.stamp now)] := by
  cases call <;> rfl

theorem isSome_trace_event_iff (call : LogCall) (time : Timestamp) :
    (call.event time).trace.isSome = true ↔ ∃ message cause, call = .error message cause := by
  cases call <;> simp [event, cause?]

/-- Without a trace the message of an event is the given text. -/
theorem message_event_of_trace_eq_none {call : LogCall} {time : Timestamp}
    (h : (call.event time).trace = none) : (call.event time).message = call.text := by
  cases call with
  | error message cause => cases h
  | debug message | info message | warn message => rfl

/-- With a trace the message of an event is the given text with the first frame of the trace. -/
theorem message_event_of_trace_eq_some {call : LogCall} {time : Timestamp} {frames : List String}
    (h : (call.event time).trace = some frames) :
    ∃ frame, frames.head? = some frame ∧
      (call.event time).message = call.text ++ ": " ++ frame := by
  cases call with
  | error message cause =>
    cases h
    exact ⟨cause.message, cause.head_trace, rfl⟩
  | debug message | info message | warn message => cases h

end LogCall

/-- The log that calls write, each at its reading of the clock. -/
def JobLog.ofCalls (calls : List (LogCall × Timestamp)) : JobLog :=
  calls.foldl (fun log call => call.1.write call.2 log) .empty

/-- The events report the calls in order, each stamped with the greatest reading of the clock up to
its own. -/
inductive Logged : List (LogCall × Timestamp) → List LogEvent → Prop
  | nil : Logged [] []
  | snoc {calls events call now time} (h : Logged calls events)
      (htime : IsGreatest {r | r ∈ (calls ++ [(call, now)]).map Prod.snd} time) :
      Logged (calls ++ [(call, now)]) (events ++ [call.event time])

namespace Logged

variable {calls : List (LogCall × Timestamp)} {events : List LogEvent}

theorem length_eq (h : Logged calls events) : events.length = calls.length := by
  induction h with
  | nil => rfl
  | snoc _ _ ih => rw [List.length_append, List.length_append, ih]; rfl

/-- **One step.** The stamp of the next event is the greatest reading up to it. -/
theorem write {log : JobLog} (h : Logged calls log.events) (call : LogCall) (now : Timestamp) :
    Logged (calls ++ [(call, now)]) (call.write now log).events := by
  rw [LogCall.events_write]
  refine .snoc h ?_
  rw [List.map_append]
  obtain ⟨events⟩ := log
  cases h with
  | nil => exact ⟨List.mem_singleton_self now, fun r hr => List.mem_singleton.1 hr ▸ Int.le_refl _⟩
  | @snoc calls events last before time _ htime =>
    have hstamp : JobLog.stamp ⟨events ++ [last.event time]⟩ now = time.latest now := by
      simp [JobLog.stamp, LogCall.event]
    exact hstamp.symm ▸ Timestamp.isGreatest_latest htime now

/-- **A whole run.** -/
theorem foldl {log : JobLog} (h : Logged calls log.events) (more : List (LogCall × Timestamp)) :
    Logged (calls ++ more) (more.foldl (fun log call => call.1.write call.2 log) log).events := by
  induction more generalizing calls log with
  | nil => simpa using h
  | cons next rest ih =>
    have hnext := ih (h.write next.1 next.2)
    rwa [List.append_assoc] at hnext

/-- The event at a position is that of the call there. -/
theorem getElem? (h : Logged calls events) {i : Nat} {call : LogCall} {now : Timestamp}
    (hcall : calls[i]? = some (call, now)) :
    ∃ time, events[i]? = some (call.event time) ∧
      IsGreatest {r | r ∈ (calls.take (i + 1)).map Prod.snd} time := by
  induction h with
  | nil => simp at hcall
  | @snoc calls events last reading time h htime ih =>
    have hlength := h.length_eq
    rcases Nat.lt_trichotomy i calls.length with hlt | rfl | hgt
    · rw [List.getElem?_append_left hlt] at hcall
      rw [List.getElem?_append_left (hlength ▸ hlt), List.take_append_of_le_length hlt]
      exact ih hcall
    · rw [List.getElem?_concat_length] at hcall
      cases hcall
      refine ⟨time, ?_, ?_⟩
      · rw [← hlength, List.getElem?_concat_length]
      · rwa [List.take_of_length_le (by simp)]
    · rw [List.getElem?_eq_none (by simp; omega)] at hcall
      cases hcall

/-- The time of an event is a reading of the clock. -/
theorem timestamp_mem (h : Logged calls events) {event : LogEvent} (hevent : event ∈ events) :
    event.timestamp ∈ calls.map Prod.snd := by
  induction h with
  | nil => simp at hevent
  | snoc _ htime ih =>
    rcases List.mem_append.1 hevent with hbefore | hlast
    · rw [List.map_append]
      exact List.mem_append_left _ (ih hbefore)
    · rw [List.mem_singleton.1 hlast]
      exact htime.1

theorem pairwise_timestamp_le (h : Logged calls events) :
    events.Pairwise fun a b => a.timestamp ≤ b.timestamp := by
  induction h with
  | nil => exact .nil
  | snoc h htime ih =>
    refine List.pairwise_append.2 ⟨ih, List.pairwise_singleton _ _, ?_⟩
    intro event hevent last hlast
    rw [List.mem_singleton.1 hlast]
    refine htime.2 ?_
    rw [List.map_append]
    exact List.mem_append_left _ (h.timestamp_mem hevent)

end Logged

theorem JobLog.logged_ofCalls (calls : List (LogCall × Timestamp)) :
    Logged calls (ofCalls calls).events := by
  have h : Logged ([] ++ calls) (ofCalls calls).events := Logged.nil.foldl calls
  rwa [List.nil_append] at h

/-- **A log is its calls, in order**, however the clock goes. There is one event for each call, at
its place; the times of the events never decrease, and the time of each is the greatest reading of
the clock up to its own. A call for an error, and no other, leaves a trace, and its message is the
given text with the first frame of the trace. -/
theorem JobLog.ofCalls_reports_calls (calls : List (LogCall × Timestamp)) :
    let events := (ofCalls calls).events
    events.length = calls.length ∧
      (events.Pairwise fun a b => a.timestamp ≤ b.timestamp) ∧
      ∀ (i : Nat) (call : LogCall) (reading : Timestamp), calls[i]? = some (call, reading) →
        ∃ event, events[i]? = some event ∧ event.level = call.level ∧
          reading ≤ event.timestamp ∧
          (∀ time, IsGreatest {r | r ∈ (calls.take (i + 1)).map Prod.snd} time ↔
            time = event.timestamp) ∧
          (event.trace.isSome = true ↔ ∃ message cause, call = .error message cause) ∧
          (event.trace = none → event.message = call.text) ∧
          ∀ frames, event.trace = some frames →
            ∃ frame, frames.head? = some frame ∧ event.message = call.text ++ ": " ++ frame := by
  have h := logged_ofCalls calls
  refine ⟨h.length_eq, h.pairwise_timestamp_le, ?_⟩
  intro i call reading hcall
  obtain ⟨stamp, hevent, hstamp⟩ := h.getElem? hcall
  have hreading : reading ∈ (calls.take (i + 1)).map Prod.snd :=
    List.mem_map_of_mem (List.mem_of_getElem? (List.getElem?_take_of_succ.trans hcall))
  refine ⟨call.event stamp, hevent, rfl, hstamp.2 hreading, ?greatest,
    call.isSome_trace_event_iff stamp, LogCall.message_event_of_trace_eq_none,
    fun _ => LogCall.message_event_of_trace_eq_some⟩
  case greatest =>
    intro time
    constructor
    · intro htime
      exact Timestamp.le_antisymm (hstamp.2 htime.1) (htime.2 hstamp.1)
    · rintro rfl
      exact hstamp

/-- The clock goes back thirty years before an error is logged. -/
theorem JobLog.ofCalls_reports_calls_of_backward_clock :
    let late : Timestamp := ⟨⟨2000, 1, 1, by decide⟩, 0, 0, 0, 0, by decide⟩
    let second : LogCall := .error "No page" ⟨.io, "disk full"⟩
    let calls := [(.info "Begin", late), (second, .epoch), (.warn "End", .epoch)]
    let frames := ["IO error: disk full", "disk full"]
    calls[1]? = some (second, .epoch) ∧
      ∃ event, (ofCalls calls).events[1]? = some event ∧ event.timestamp = late ∧
        event.trace = some frames ∧
        ∃ frame, frames.head? = some frame ∧ event.message = "No page" ++ ": " ++ frame := by
  intro late second calls frames
  have hevent : (ofCalls calls).events[1]? = some (second.event late) := by decide +kernel
  have htrace : (second.event late).trace = some frames := by decide
  obtain ⟨-, -, hcalls⟩ := ofCalls_reports_calls calls
  obtain ⟨event, hfound, -, -, -, -, -, hmessage⟩ := hcalls 1 second .epoch rfl
  obtain rfl : second.event late = event := Option.some.inj (hevent.symm.trans hfound)
  exact ⟨rfl, _, hevent, rfl, htrace, hmessage frames htrace⟩

end SpaceMigration
