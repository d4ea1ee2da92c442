import BankingBackend.Foundation.Program
import BankingBackend.Foundation.Transition
import BankingBackend.Messaging.Payload

/-! # Broker and tables of the consumers

The queues of `setupTopology`, the rows of `processed_messages`, and how both
answer a worker. A worker handles one delivery.
-/

namespace BankingBackend.Messaging

open Foundation
open Outbox (toTimestamp)
open Postgres (Outcome)

/-- Each has its own queue and, under its `consumerName`, its own rows. -/
inductive Consumer
  | rabbitMq
  | email
  deriving DecidableEq, Repr

/-! ## Topology -/

/-- The fields and properties that the consumers use. The names of headers are distinct. -/
structure Message where
  exchange : String
  routingKey : String
  messageId : Option String
  headers : List (String × Json) := []
  content : Content

structure Topology where
  exchange : String := "banking.events"
  queue : String := "banking.events.q"
  emailQueue : String := "notifications.email.q"

namespace Topology

def queueName (topology : Topology) : Consumer → String
  | .rabbitMq => topology.queue
  | .email => topology.emailQueue

def bindingKeys : Consumer → List String
  | .rabbitMq => ["#"]
  | .email => ["transaction_completed", "transaction_failed", "user_registered"]

/-- `#` matches every routing key. -/
def bound (consumer : Consumer) (routingKey : String) : Bool :=
  (bindingKeys consumer).any fun key => key == "#" || key == routingKey

/-- The exchange without a name routes to the queue with the routing key as its name. -/
def routes (topology : Topology) (message : Message) (consumer : Consumer) : Bool :=
  if message.exchange = "" then message.routingKey == topology.queueName consumer
  else message.exchange == topology.exchange && bound consumer message.routingKey

end Topology

/-! ## Rows -/

inductive ProcessedMessageStatus
  | claimed
  | completed
  | failed
  deriving DecidableEq, Repr

/-- `claimedBy` is no column: it records whose claim took the row last. -/
structure ProcessedMessage (Worker : Type) where
  eventType : String
  status : ProcessedMessageStatus
  claimedAt : ℕ
  completedAt : Option ℕ := none
  lastError : Option String := none
  claimedBy : Worker

namespace ProcessedMessage

variable {Worker : Type}

/-- The `WHERE` clause of the reclaim. -/
def reclaimable (now claimTtlMs : ℕ) (row : ProcessedMessage Worker) : Bool :=
  match row.status with
  | .failed => true
  | .claimed => decide (row.claimedAt * 1000 + claimTtlMs * 1000 < now)
  | .completed => false

def reclaim (worker : Worker) (eventType : String) (now : ℕ) (row : ProcessedMessage Worker) :
    ProcessedMessage Worker :=
  { row with
    status := .claimed
    eventType
    claimedAt := toTimestamp now
    lastError := none
    claimedBy := worker }

def complete (now : ℕ) (row : ProcessedMessage Worker) : ProcessedMessage Worker :=
  { row with status := .completed, completedAt := some (toTimestamp now) }

def fail (errorMessage : String) (row : ProcessedMessage Worker) : ProcessedMessage Worker :=
  { row with status := .failed, lastError := some errorMessage }

end ProcessedMessage

inductive Action
  | deposit
  | withdraw
  | transfer
  deriving DecidableEq, Repr

structure AuditLogData where
  action : Action
  outcome : Outcome
  customerId : String
  entityType : String
  entityId : String
  actorId : String
  resourceId : String
  traceId : Option String
  reasonCode : Option String
  metadata : Json
  ipAddress : Option String
  userAgent : Option String

structure EmailMessage where
  sender : String
  to_ : String
  subject : String
  text : String

inductive Output
  | auditLog (data : AuditLogData)
  | email (message : EmailMessage)

/-- What a consumer wrote or sent, and for which message. -/
structure Effect where
  consumer : Consumer
  messageId : Option String
  output : Output

/-! ## Deliveries -/

/-- How far a delivery is. `failed` is to be retried or rejected, `returned` was published
again but is rejected all the same; it is `settled` when the message was completed, was a
duplicate or is left to its retry. -/
inductive Progress
  | idle
  | received
  | dispatching (messageId : String)
  | dispatched (messageId : String)
  | failed
  | returned
  | settled
  | rejected
  deriving DecidableEq, Repr

namespace Progress

/-- The message whose claim the worker holds, until it is completed or marked as failed. -/
def claimed? : Progress → Option String
  | .dispatching messageId | .dispatched messageId => some messageId
  | _ => none

def afterEffect : Progress → Progress
  | .dispatching messageId => .dispatched messageId
  | progress => progress

def started : Progress → Bool
  | .idle | .received => false
  | _ => true

def pending : Progress → Bool
  | .received | .dispatching _ | .dispatched _ | .failed => true
  | _ => false

end Progress

/-- The message stays with its worker until it is acknowledged, rejected or, when the
worker crashes or loses its channel, returned to the queue. -/
structure Handling where
  message : Option Message := none
  unacked : Bool := false
  crashed : Bool := false
  progress : Progress := .idle

/-- Queues, tables and the deliveries; `dispatches` and `published` record what
happened. -/
structure State (Worker : Type) where
  queue : Consumer → List Message
  deadLetters : Consumer → List Message
  rows : Consumer → String → Option (ProcessedMessage Worker)
  effects : List Effect
  handling : Worker → Handling
  now : ℕ
  dispatches : List (Consumer × String)
  published : List Message

namespace State

variable {Worker : Type} (state : State Worker)

/-! ### Rows and queues -/

section Tables

variable (worker : Worker) (consumer : Consumer) (messageId eventType : String) (claimTtlMs : ℕ)

def Completed : Prop :=
  ∃ row, state.rows consumer messageId = some row ∧ row.status = .completed

instance : Decidable (state.Completed consumer messageId) :=
  decidable_of_iff ((state.rows consumer messageId).any fun row =>
    decide (row.status = .completed)) (by simp [Completed, Option.any_eq_true])

def setRow (row : ProcessedMessage Worker) : State Worker :=
  { state with
    rows := Function.update state.rows consumer
      (Function.update (state.rows consumer) messageId (some row)) }

def claimRow : Option (ProcessedMessage Worker) :=
  match state.rows consumer messageId with
  | none => some
      { eventType, status := .claimed, claimedAt := toTimestamp state.now, claimedBy := worker }
  | some row =>
      if row.reclaimable state.now claimTtlMs then some (row.reclaim worker eventType state.now)
      else none

def claimedRow : Option (ProcessedMessage Worker) :=
  (state.rows consumer messageId).filter fun row => decide (row.status = .claimed)

def failRow (errorMessage : String) : State Worker :=
  match state.rows consumer messageId with
  | some row => state.setRow consumer messageId (row.fail errorMessage)
  | none => state

def record (output : Output) : State Worker :=
  { state with
    effects := ⟨consumer, (state.handling worker).progress.claimed?, output⟩ :: state.effects }

/-- A message that no binding matches is dropped. -/
def enqueue (topology : Topology) (message : Message) : State Worker :=
  { state with
    queue := fun consumer =>
      if topology.routes message consumer then state.queue consumer ++ [message]
      else state.queue consumer }

variable {state worker consumer messageId eventType claimTtlMs} {row : ProcessedMessage Worker}

@[simp] theorem setRow_handling :
    (state.setRow consumer messageId row).handling = state.handling := rfl

@[simp] theorem setRow_queue : (state.setRow consumer messageId row).queue = state.queue := rfl

@[simp] theorem setRow_deadLetters :
    (state.setRow consumer messageId row).deadLetters = state.deadLetters := rfl

@[simp] theorem setRow_effects :
    (state.setRow consumer messageId row).effects = state.effects := rfl

@[simp] theorem setRow_dispatches :
    (state.setRow consumer messageId row).dispatches = state.dispatches := rfl

@[simp] theorem setRow_published :
    (state.setRow consumer messageId row).published = state.published := rfl

theorem setRow_rows (state : State Worker) (consumer : Consumer) (messageId : String)
    (row : ProcessedMessage Worker) (other : Consumer) (key : String) :
    (state.setRow consumer messageId row).rows other key =
      if other = consumer ∧ key = messageId then some row else state.rows other key := by
  by_cases same : other = consumer
  · subst other
    by_cases equal : key = messageId
    · subst key
      simp [setRow]
    · simp [setRow, equal]
  · simp [setRow, same]

theorem setRow_found (state : State Worker) {other : Consumer} {key : String}
    {found : ProcessedMessage Worker}
    (present : (state.setRow consumer messageId row).rows other key = some found) :
    state.rows other key = some found ∨ other = consumer ∧ key = messageId ∧ found = row := by
  rw [setRow_rows] at present
  split at present
  · rename_i same
    cases present
    exact .inr ⟨same.1, same.2, rfl⟩
  · exact .inl present

theorem setRow_absent (state : State Worker) {other : Consumer} {key : String}
    (absent : (state.setRow consumer messageId row).rows other key = none) :
    state.rows other key = none := by
  rw [setRow_rows] at absent
  split at absent
  · cases absent
  · exact absent

theorem Completed.setRow {other : Consumer} {key : String} (done : state.Completed other key)
    (stays : other = consumer → key = messageId → row.status = .completed) :
    (state.setRow consumer messageId row).Completed other key := by
  by_cases same : other = consumer ∧ key = messageId
  · exact ⟨row, by rw [setRow_rows, if_pos same], stays same.1 same.2⟩
  · rcases done with ⟨earlier, found, completed⟩
    exact ⟨earlier, by rw [setRow_rows, if_neg same, found], completed⟩

theorem completed_setRow (state : State Worker) {other : Consumer} {key : String}
    (done : (state.setRow consumer messageId row).Completed other key) :
    state.Completed other key ∧ ¬(other = consumer ∧ key = messageId) ∨
      (other = consumer ∧ key = messageId) ∧ row.status = .completed := by
  rcases done with ⟨found, present, completed⟩
  rw [setRow_rows] at present
  split at present
  · rename_i same
    cases present
    exact .inr ⟨same, completed⟩
  · rename_i different
    exact .inl ⟨⟨found, present, completed⟩, different⟩

theorem claimRow_spec
    (taken : state.claimRow worker consumer messageId eventType claimTtlMs = some row) :
    row.claimedBy = worker ∧ row.status = .claimed := by
  unfold claimRow at taken
  split at taken
  · cases taken
    exact ⟨rfl, rfl⟩
  · split at taken
    · cases taken
      exact ⟨rfl, rfl⟩
    · cases taken

/-- No claim takes a completed row. -/
theorem claimRow_of_completed (completed : state.Completed consumer messageId) :
    state.claimRow worker consumer messageId eventType claimTtlMs = none := by
  rcases completed with ⟨row, found, completed⟩
  simp [claimRow, found, ProcessedMessage.reclaimable, completed]

theorem claimedRow_eq_some :
    state.claimedRow consumer messageId = some row ↔
      state.rows consumer messageId = some row ∧ row.status = .claimed := by
  simp [claimedRow, Option.filter_eq_some_iff]

theorem failRow_cases (state : State Worker) (consumer : Consumer) (messageId errorMessage : String) :
    state.failRow consumer messageId errorMessage = state ∨
      ∃ row, state.rows consumer messageId = some row ∧
        state.failRow consumer messageId errorMessage =
          state.setRow consumer messageId (row.fail errorMessage) := by
  unfold failRow
  split
  · rename_i row found
    exact .inr ⟨row, found, rfl⟩
  · exact .inl rfl

theorem mem_enqueue {topology : Topology} {message copy : Message} :
    copy ∈ (state.enqueue topology message).queue consumer ↔
      copy ∈ state.queue consumer ∨ topology.routes message consumer = true ∧ copy = message := by
  unfold enqueue
  by_cases routed : topology.routes message consumer = true
  · simp [routed]
  · simp [routed]

end Tables

/-! ### Handling a delivery -/

section Workers

variable [DecidableEq Worker] (worker : Worker) (consumer : Consumer)

def setHandling (handling : Handling) : State Worker :=
  { state with handling := Function.update state.handling worker handling }

def advance (progress : Progress) : State Worker :=
  state.setHandling worker { state.handling worker with progress }

def receive (position : ℕ) (message : Message) : State Worker :=
  setHandling
    { state with
      queue := Function.update state.queue consumer ((state.queue consumer).eraseIdx position) }
    worker { message := some message, unacked := true, progress := .received }

def ack : State Worker :=
  state.setHandling worker { state.handling worker with unacked := false }

/-- The delivery goes back to its queue. -/
def requeue : State Worker :=
  match (state.handling worker).message with
  | some message =>
      if (state.handling worker).unacked then
        setHandling
          { state with
            queue := Function.update state.queue consumer (message :: state.queue consumer) }
          worker { state.handling worker with unacked := false }
      else state
  | none => state

def crash : State Worker :=
  let requeued := state.requeue worker consumer
  requeued.setHandling worker { requeued.handling worker with crashed := true }

def deadLetter : State Worker :=
  match (state.handling worker).message with
  | some message =>
      setHandling
        { state with
          deadLetters := Function.update state.deadLetters consumer
            (message :: state.deadLetters consumer) }
        worker { state.handling worker with unacked := false, progress := .rejected }
  | none => state

variable {state worker consumer} {handling : Handling}

@[simp] theorem setHandling_handling : (state.setHandling worker handling).handling =
    Function.update state.handling worker handling := rfl

@[simp] theorem setHandling_queue : (state.setHandling worker handling).queue = state.queue := rfl

@[simp] theorem setHandling_deadLetters :
    (state.setHandling worker handling).deadLetters = state.deadLetters := rfl

@[simp] theorem setHandling_rows : (state.setHandling worker handling).rows = state.rows := rfl

@[simp] theorem setHandling_effects :
    (state.setHandling worker handling).effects = state.effects := rfl

@[simp] theorem setHandling_dispatches :
    (state.setHandling worker handling).dispatches = state.dispatches := rfl

@[simp] theorem setHandling_published :
    (state.setHandling worker handling).published = state.published := rfl

theorem requeue_cases (state : State Worker) (worker : Worker) (consumer : Consumer) :
    state.requeue worker consumer = state ∨ ∃ message,
      (state.handling worker).message = some message ∧ (state.handling worker).unacked = true ∧
        state.requeue worker consumer = setHandling
          { state with
            queue := Function.update state.queue consumer (message :: state.queue consumer) }
          worker { state.handling worker with unacked := false } := by
  unfold requeue
  split
  · rename_i message holds
    split
    · rename_i unacked
      exact .inr ⟨message, holds, unacked, rfl⟩
    · exact .inl rfl
  · exact .inl rfl

theorem requeue_effects : (state.requeue worker consumer).effects = state.effects := by
  unfold requeue
  split
  · split <;> rfl
  · rfl

theorem requeue_rows : (state.requeue worker consumer).rows = state.rows := by
  unfold requeue
  split
  · split <;> rfl
  · rfl

theorem requeue_crashed (other : Worker) :
    ((state.requeue worker consumer).handling other).crashed = (state.handling other).crashed := by
  rcases state.requeue_cases worker consumer with
    same | ⟨message, _, _, result⟩
  · rw [same]
  · rw [result]
    by_cases same : other = worker
    · subst other
      simp
    · simp [same]

theorem deadLetter_queue : (state.deadLetter worker consumer).queue = state.queue := by
  unfold deadLetter
  split <;> rfl

theorem deadLetter_rows : (state.deadLetter worker consumer).rows = state.rows := by
  unfold deadLetter
  split <;> rfl

end Workers

end State

end BankingBackend.Messaging
