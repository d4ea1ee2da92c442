import BankingBackend.Outbox.Events
import BankingBackend.Foundation.Transition

/-! # `OutboxService`

A worker runs `processPendingEvents`: it claims a batch, publishes its events one
by one and finalizes each claim. Workers that crash take no further steps.
-/

namespace BankingBackend.Outbox

open Foundation
open Postgres (Uuid EventStatus)

structure OutboxPublishMessage (Payload : Type) where
  eventId : Uuid
  type : String
  occurredAt : ℕ
  schemaVersion : String
  payload : Payload

structure PublishHeaders where
  eventType : String
  source : String
  schemaVersion : String

structure PublishOptions where
  messageId : Uuid
  timestamp : ℕ
  headers : PublishHeaders

/-! ## Requests to the environment -/

/-- `getPublisherChannel` names the message the channel is asked for. -/
inductive Command (Payload : Type)
  | claimNextBatch (batchSize claimTtlMs : ℕ)
  | updateMany (id : Uuid) (claimedAt : Option ℕ) (update : EventUpdate)
  | getPublisherChannel (messageId : Uuid)
  | assertExchange (exchange : String)
  | publish (exchange routingKey : String) (message : OutboxPublishMessage Payload)
      (options : PublishOptions)
  | dateNow

@[reducible] def Command.Answer {Payload : Type} : Command Payload → Type
  | .claimNextBatch _ _ => Except String (List (ClaimedEventRow Payload))
  | .updateMany _ _ _ => Except String ℕ
  | .getPublisherChannel _ => Except String Unit
  | .assertExchange _ => Except String Unit
  | .publish _ _ _ _ => Except String Unit
  | .dateNow => ℕ

def interface (Payload : Type) : Interface := ⟨Command Payload, Command.Answer⟩

abbrev Service (Payload α : Type) := ExceptT String (Program (interface Payload)) α

/-- A failing statement may have been executed. -/
structure Failure where
  message : String
  executed : Bool := false

/-- What a step leaves open. `dateNow` is the worker's own clock. -/
structure Choice extends BatchChoice where
  failure : Option Failure := none
  dateNow : ℕ := 0

inductive Occurrence (Payload : Type)
  | tick (now : ℕ)
  | create (id : Uuid) (type : String) (payload : Payload) (createdAt : ℕ)

section Execution

variable {Worker Payload : Type}

def Choice.answer {α : Type} (choice : Choice) (value : α) : Except String α :=
  match choice.failure with
  | none => .ok value
  | some failure => .error failure.message

def Choice.after (choice : Choice) (before after : State Worker Payload) : State Worker Payload :=
  match choice.failure with
  | none => after
  | some failure => if failure.executed then after else before

/-- The confirm channel calls back without an error when the broker has confirmed. -/
def State.perform (worker : Worker) (command : Command Payload) (choice : Choice)
    (state : State Worker Payload) : Option (command.Answer × State Worker Payload) :=
  match command with
  | .claimNextBatch batchSize claimTtlMs =>
      let batch := candidates batchSize claimTtlMs state.now choice.toBatchChoice state.events
      some (choice.answer (returning choice.toBatchChoice state.now batch),
        choice.after state (state.claimAll worker (batch.map Event.id)))
  | .updateMany id claimedAt update =>
      if update.fits then
        let result := state.updateMany worker id claimedAt update
        some (choice.answer result.1, choice.after state result.2)
      else some (.error "value out of range", state)
  | .getPublisherChannel messageId =>
      some (choice.answer (), { state with handed := messageId :: state.handed })
  | .assertExchange _ => some (choice.answer (), state)
  | .publish _ _ _ options =>
      some (choice.answer (), match choice.failure with
        | none => { state with confirmed := options.messageId :: state.confirmed }
        | some _ => state)
  | .dateNow => some (choice.dateNow, state)

/-- Events are created `PENDING`. -/
def State.environment (event : Occurrence Payload) (state : State Worker Payload) :
    Option (State Worker Payload) :=
  match event with
  | .tick now => if state.now ≤ now then some { state with now } else none
  | .create id type payload createdAt =>
      if state.events.any fun event => event.id == id then none
      else some { state with events := state.events ++ [.created id type payload createdAt] }

def machine (Worker Payload : Type) :
    Machine (interface Payload) Worker Choice (Occurrence Payload) (State Worker Payload) where
  perform := State.perform
  environment := State.environment

end Execution

/-! ## Programs -/

section Programs

variable {Payload : Type}

def request (command : Command Payload) : Service Payload command.Answer :=
  ExceptT.lift (.call command .done : Program (interface Payload) command.Answer)

def orThrow {α : Type} : Except String α → Service Payload α
  | .ok value => pure value
  | .error message => throw message

/-- `RabbitMqPublisher.publish`. -/
def publish (exchange routingKey : String) (message : OutboxPublishMessage Payload)
    (options : PublishOptions) : Service Payload Unit := do
  orThrow (← request (.getPublisherChannel options.messageId))
  orThrow (← request (.assertExchange exchange))
  orThrow (← request (.publish exchange routingKey message options))

def BANKING_EVENT_SCHEMA_VERSION : String := "1"

def OutboxConfig.getBackoffDelayMs (config : OutboxConfig) (retryCount : ℕ) : ℕ :=
  config.retryBaseDelayMs * 2 ^ (retryCount - 1)

def publishEvent (config : OutboxConfig) (evt : ClaimedEventRow Payload) : Service Payload Unit :=
  publish config.exchange evt.type.toLower
    { eventId := evt.id
      type := evt.type
      occurredAt := evt.createdAt
      schemaVersion := BANKING_EVENT_SCHEMA_VERSION
      payload := evt.payload }
    { messageId := evt.id
      timestamp := evt.createdAt
      headers :=
        { eventType := evt.type
          source := "banking-backend"
          schemaVersion := BANKING_EVENT_SCHEMA_VERSION } }

/-- The time of the next attempt, or none when the retries are exhausted. -/
def nextRetryAt (config : OutboxConfig) (nextRetryCount : ℕ) : Service Payload (Option ℕ) := do
  if nextRetryCount ≤ config.maxRetries then
    let now ← request .dateNow
    pure (some (now + config.getBackoffDelayMs nextRetryCount))
  else pure none

/-- One turn of the loop over the claimed events. -/
def processEvent (config : OutboxConfig) (evt : ClaimedEventRow Payload) :
    Service Payload Unit := do
  match ← Program.attempt (publishEvent config evt) with
  | .ok _ =>
      let publishedAt ← request .dateNow
      -- The message is out: a failing update is logged and the event not downgraded.
      let _ ← request (.updateMany evt.id evt.claimedAt (.processed publishedAt))
      pure ()
  | .error error =>
      let nextRetryCount := evt.retryCount + 1
      let nextRetryAt ← nextRetryAt config nextRetryCount
      let _ ← orThrow (← request
        (.updateMany evt.id evt.claimedAt (.failed nextRetryCount nextRetryAt error)))
      pure ()

def processEvents (config : OutboxConfig) : List (ClaimedEventRow Payload) → Service Payload Unit
  | [] => pure ()
  | evt :: events => do
      processEvent config evt
      processEvents config events

def processPendingEvents (config : OutboxConfig) : Service Payload Unit := do
  let events ← orThrow (← request (.claimNextBatch config.batchSize config.claimTtlMs))
  processEvents config events

end Programs

/-! ## Runs -/

section Runs

variable {Worker Payload : Type} [DecidableEq Worker]

abbrev WorkerResult := Except String Unit

abbrev Configuration (Worker Payload : Type) :=
  Foundation.Configuration (interface Payload) Worker (State Worker Payload) WorkerResult

abbrev Label (Worker Payload : Type) := Action Worker Choice (Occurrence Payload)

def step (current : Configuration Worker Payload) (label : Label Worker Payload) :
    Option (Configuration Worker Payload) :=
  (machine Worker Payload).step current label

def initial (Worker Payload : Type) (config : OutboxConfig) (now : ℕ) :
    Configuration Worker Payload where
  shared := { events := [], now, history := [], handed := [], confirmed := [] }
  program _ := (processPendingEvents config).run
  begun _ := false

def Reachable (config : OutboxConfig) (current : Configuration Worker Payload) : Prop :=
  ∃ now, Run step Unrestricted (initial Worker Payload config now) current

end Runs

end BankingBackend.Outbox
