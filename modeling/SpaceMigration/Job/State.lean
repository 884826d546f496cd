import SpaceMigration.Error

/-!
# The life of a job

A job is created, runs, and ends in success or failure. The two ends are sinks.
-/

namespace SpaceMigration

/-- The stage a job has reached. -/
inductive JobState where
  | created
  | running
  /-- The job reached its end. -/
  | finishedSuccess
  /-- The job stopped early. -/
  | finishedFailure
deriving DecidableEq, Repr

namespace JobState

/-- Whether the job has ended. -/
def isTerminal : JobState → Bool
  | finishedSuccess | finishedFailure => true
  | created | running => false

/-- The words for a state in messages. -/
def display : JobState → String
  | created => "created"
  | running => "running"
  | finishedSuccess => "finished_success"
  | finishedFailure => "finished_failure"

/-- Whether a job moves from one state to the other in one step. -/
def allows : JobState → JobState → Bool
  | created, running => true
  | running, finishedSuccess => true
  | running, finishedFailure => true
  | _, _ => false

/-- Moves to the next state, if the step is allowed. -/
def transition (state next : JobState) : Except MigrationError JobState :=
  if state.allows next then .ok next
  else .error ⟨.invalidState, "cannot move from " ++ state.display ++ " to " ++ next.display⟩

/-- The name of a state in records. -/
def name : JobState → String
  | created => "Created"
  | running => "Running"
  | finishedSuccess => "FinishedSuccess"
  | finishedFailure => "FinishedFailure"

/-- The state with the given name. -/
def ofName? (name : String) : Option JobState :=
  [created, running, finishedSuccess, finishedFailure].find? fun state => state.name == name

end JobState

end SpaceMigration
