import SpaceMigration.Audit.Completion

/-!
# Channels of signals

A channel broadcasts every message to all its subscribers. It keeps a bounded number of messages,
its capacity, a power of two. A subscriber that falls behind by more is told once how many messages
it missed, and goes on with the oldest one that is kept.

A message sent while nobody is subscribed is dropped. Closing a channel lets its subscribers read
what is left.

`listen` reads a closed channel to its end and records every signal it meets; `announce` does so for
one finished job.
-/

namespace SpaceMigration

/-- What a subscriber receives. -/
inductive Reception (α : Type) where
  | message (a : α)
  /-- The given number of messages was lost. -/
  | lagged (missed : Nat)
  /-- There is nothing to read yet. -/
  | empty
  /-- There is nothing left to read. -/
  | closed

/-- A channel of messages. -/
structure Channel (α : Type) where
  capacity : Nat
  /-- The messages sent to some subscriber, oldest first. -/
  sent : List α
  /-- The subscribers, each with the number of messages before the next one it reads. -/
  cursors : List (Nat × Nat)
  /-- The number of subscribers so far, which is the identity of the next one. -/
  next : Nat
  isClosed : Bool

namespace Channel

variable {α : Type}

/-- The number of messages that a channel keeps by default. -/
def defaultCapacity : Nat := 64

/-- A channel that keeps the given number of messages, rounded up to a power of two. There is no
channel without room. -/
def ofCapacity? (capacity : Nat) : Option (Channel α) :=
  if capacity = 0 then none else some ⟨capacity.nextPowerOfTwo, [], [], 0, false⟩

/-- A channel of the default capacity. -/
def new : Channel α :=
  ⟨defaultCapacity, [], [], 0, false⟩

/-- The number of subscribers. -/
def subscriberCount (channel : Channel α) : Nat :=
  channel.cursors.length

/-- Adds a subscriber, which reads what is sent from now on, and returns its identity. -/
def subscribe (channel : Channel α) : Nat × Channel α :=
  (channel.next, { channel with
    cursors := channel.cursors ++ [(channel.next, channel.sent.length)]
    next := channel.next + 1 })

/-- Removes a subscriber. -/
def unsubscribe (channel : Channel α) (subscriber : Nat) : Channel α :=
  { channel with cursors := channel.cursors.filter fun cursor => cursor.1 ≠ subscriber }

/-- Sends a message, and returns the number of subscribers it reaches. -/
def send (channel : Channel α) (message : α) : Nat × Channel α :=
  if channel.cursors.isEmpty then (0, channel)
  else (channel.subscriberCount, { channel with sent := channel.sent ++ [message] })

/-- Closes the channel. -/
def close (channel : Channel α) : Channel α :=
  { channel with isClosed := true }

/-- The number of messages that are no longer kept. -/
def dropped (channel : Channel α) : Nat :=
  channel.sent.length - channel.capacity

/-- The channel with the cursor of a subscriber moved. -/
def moveTo (channel : Channel α) (subscriber position : Nat) : Channel α :=
  { channel with cursors := channel.cursors.map fun cursor =>
      if cursor.1 = subscriber then (subscriber, position) else cursor }

/-- Reads the next message of a subscriber. Whoever is not subscribed finds the channel closed. -/
def receive (channel : Channel α) (subscriber : Nat) : Reception α × Channel α :=
  match channel.cursors.lookup subscriber with
  | none => (.closed, channel)
  | some position =>
    if position < channel.dropped then
      (.lagged (channel.dropped - position), channel.moveTo subscriber channel.dropped)
    else match channel.sent[position]? with
      | some message => (.message message, channel.moveTo subscriber (position + 1))
      | none => (if channel.isClosed then .closed else .empty, channel)

/-- What a subscriber still reads once nothing more is sent, in order. -/
def pending (channel : Channel α) (subscriber : Nat) : List (Reception α) :=
  match channel.cursors.lookup subscriber with
  | none => []
  | some position =>
    let rest := (channel.sent.drop (max position channel.dropped)).map Reception.message
    if position < channel.dropped then .lagged (channel.dropped - position) :: rest else rest

end Channel

/-! ### Recording the signals of a channel -/

/-- The failure of signals that were lost before they could be recorded. -/
def lostSignals (missed : Nat) : MigrationError :=
  ⟨.persistence, s!"{missed} finished signals were dropped before recording"⟩

/-- Records the signals of a list of receptions, in order, and returns the failures. -/
def listen {m : Type → Type} [Monad m] (store : AuditStore m) (clock : m Timestamp) :
    List (Reception JobFinished) → m (List MigrationError)
  | [] => return []
  | .message signal :: rest => do
    let now ← clock
    match ← recordCompletion store now signal with
    | .ok _ => listen store clock rest
    | .error e => return e :: (← listen store clock rest)
  | .lagged missed :: rest => return lostSignals missed :: (← listen store clock rest)
  | .empty :: rest => listen store clock rest
  | .closed :: _ => return []

/-- Announces the end of a job on a channel of its own, with one listener, and returns the failures
of the listener. -/
def announce {m : Type → Type} [Monad m] (store : AuditStore m) (clock : m Timestamp)
    (job : JobSnapshot) : m (List MigrationError) :=
  let (listener, channel) := (Channel.new : Channel JobFinished).subscribe
  let (_, channel) := channel.send ⟨job.jobType, job⟩
  listen store clock (channel.close.pending listener)

end SpaceMigration
