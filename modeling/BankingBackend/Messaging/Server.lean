import BankingBackend.Messaging.Broker

/-! # Requests of a worker

What a worker asks of the database, the mail server and its channel, and what
each answer leaves behind.
-/

namespace BankingBackend.Messaging

open Foundation

structure CustomerContact where
  email : String
  name : String

inductive Command
  | receive
  | claim (messageId eventType : String) (claimTtlMs : ℕ)
  | markCompleted (messageId : String)
  | markFailed (messageId errorMessage : String)
  | auditLogCreate (data : AuditLogData)
  | customerFindUnique (id : String)
  | sendMail (message : EmailMessage)
  | publish (message : Message)
  | ack
  | nack (requeue : Bool)

@[reducible] def Command.Answer : Command → Type
  | .receive => Message
  | .claim _ _ _ => Except Thrown Bool
  | .markCompleted _ => Except Thrown ℕ
  | .markFailed _ _ => Except Thrown Unit
  | .auditLogCreate _ => Except Thrown Unit
  | .customerFindUnique _ => Except Thrown (Option CustomerContact)
  | .sendMail _ => Except Thrown Unit
  | .publish _ => Except Thrown Bool
  | .ack => Except Thrown Unit
  | .nack _ => Except Thrown Unit

def interface : Interface := ⟨Command, Command.Answer⟩

/-- A failing statement may have been executed. -/
structure Failure where
  error : Thrown
  executed : Bool := false

/-- What a step leaves open. `writable` is what `publish` returns: the message is sent
either way. -/
structure Choice where
  failure : Option Failure := none
  position : ℕ := 0
  customer : Option CustomerContact := none
  writable : Bool := true

namespace Choice

variable {Worker : Type}

def answer {α : Type} (choice : Choice) (value : α) : Except Thrown α :=
  match choice.failure with
  | none => .ok value
  | some failure => .error failure.error

def after (choice : Choice) (before after : State Worker) : State Worker :=
  match choice.failure with
  | none => after
  | some failure => if failure.executed then after else before

theorem after_cases (choice : Choice) (before after : State Worker) :
    choice.after before after = before ∨
      choice.after before after = after ∧ (∀ failure ∈ choice.failure, failure.executed = true) := by
  unfold Choice.after
  split
  · rename_i succeeds
    exact .inr ⟨rfl, by simp [succeeds]⟩
  · rename_i failure fails
    split
    · rename_i executed
      exact .inr ⟨rfl, by simpa [fails] using executed⟩
    · exact .inl rfl

theorem after_of_executed {choice : Choice}
    (executed : ∀ failure ∈ choice.failure, failure.executed = true)
    (before after : State Worker) : choice.after before after = after := by
  unfold Choice.after
  split
  · rfl
  · rename_i failure fails
    rw [if_pos (executed failure (by simp [fails]))]

end Choice

namespace State

variable {Worker : Type} [DecidableEq Worker] (state : State Worker) (worker : Worker)
  (consumer : Consumer) (choice : Choice)

/-- The worker goes on to dispatch the message. -/
def grant (messageId : String) (row : ProcessedMessage Worker) : State Worker :=
  { (state.setRow consumer messageId row).advance worker (.dispatching messageId) with
    dispatches := (consumer, messageId) :: state.dispatches }

def claim (messageId eventType : String) (claimTtlMs : ℕ) : Except Thrown Bool × State Worker :=
  match state.claimRow worker consumer messageId eventType claimTtlMs, choice.failure with
  | some row, none => (.ok true, state.grant worker consumer messageId row)
  | none, none => (.ok false, state.advance worker .settled)
  | some row, some failure =>
      (.error failure.error,
        (if failure.executed then state.setRow consumer messageId row else state).advance worker
          .failed)
  | none, some failure => (.error failure.error, state.advance worker .failed)

/-- The number of rows changed. -/
def markCompleted (messageId : String) : Except Thrown ℕ × State Worker :=
  match state.claimedRow consumer messageId, choice.failure with
  | some row, none =>
      (.ok 1, (state.setRow consumer messageId (row.complete state.now)).advance worker .settled)
  | none, none => (.ok 0, state)
  | some row, some failure =>
      (.error failure.error,
        if failure.executed then state.setRow consumer messageId (row.complete state.now) else state)
  | none, some failure => (.error failure.error, state)

def markFailed (messageId errorMessage : String) : State Worker :=
  (choice.after state (state.failRow consumer messageId errorMessage)).advance worker .failed

def output (output : Output) : State Worker :=
  (choice.after state (state.record worker consumer output)).advance worker
    (state.handling worker).progress.afterEffect

/-- Sends and acknowledgements fail once the channel is closed. -/
def onChannel {α : Type} (value : α) (after : State Worker) :
    Option (Except Thrown α × State Worker) :=
  match choice.failure with
  | some failure => some (.error failure.error, state)
  | none => if (state.handling worker).unacked then some (.ok value, after) else none

def perform (consumers : Worker → Consumer) (topology : Topology) (worker : Worker)
    (command : Command) (choice : Choice) (state : State Worker) :
    Option (command.Answer × State Worker) :=
  let consumer := consumers worker
  if (state.handling worker).crashed then none
  else match command with
  | .receive =>
      ((state.queue consumer)[choice.position]?).map fun message =>
        (message, state.receive worker consumer choice.position message)
  | .claim messageId eventType claimTtlMs =>
      some (state.claim worker consumer choice messageId eventType claimTtlMs)
  | .markCompleted messageId => some (state.markCompleted worker consumer choice messageId)
  | .markFailed messageId errorMessage =>
      some (choice.answer (), state.markFailed worker consumer choice messageId errorMessage)
  | .auditLogCreate data =>
      some (choice.answer (), state.output worker consumer choice (.auditLog data))
  | .customerFindUnique _ => some (choice.answer choice.customer, state)
  | .sendMail message =>
      some (choice.answer (), state.output worker consumer choice (.email message))
  | .publish message =>
      state.onChannel worker choice choice.writable
        ((state.enqueue topology message).advance worker
          (if choice.writable then .settled else .returned))
  | .ack => state.onChannel worker choice () (state.ack worker)
  | .nack requeue =>
      state.onChannel worker choice ()
        (if requeue then state.requeue worker consumer else state.deadLetter worker consumer)

end State

/-! ## Environment -/

/-- Messages are published, workers crash or lose their channel, and time passes. -/
inductive Occurrence (Worker : Type)
  | publish (message : Message)
  | crash (worker : Worker)
  | disconnect (worker : Worker)
  | tick (now : ℕ)

section Machine

variable {Worker : Type} [DecidableEq Worker] (consumers : Worker → Consumer)
  (topology : Topology)

def State.environment (event : Occurrence Worker) (state : State Worker) :
    Option (State Worker) :=
  match event with
  | .publish message =>
      some { state.enqueue topology message with published := message :: state.published }
  | .crash worker => some (state.crash worker (consumers worker))
  | .disconnect worker => some (state.requeue worker (consumers worker))
  | .tick now => if state.now ≤ now then some { state with now } else none

def machine : Machine interface Worker Choice (Occurrence Worker) (State Worker) where
  perform := State.perform consumers topology
  environment := State.environment consumers topology

end Machine

end BankingBackend.Messaging
