import BankingBackend.Foundation.RelyGuarantee
import BankingBackend.Messaging.Dispatch
import Mathlib.Data.Rat.Floor

/-! # `RabbitMqConsumer` and `EmailConsumer`

A worker receives one delivery and runs `handleMessage` on it. The two consumers
differ in what they dispatch and in one message.
-/

namespace BankingBackend.Messaging

open Foundation

/-! ## Retries -/

def getConsumeMessageAttempts (msg : Message) : ℕ :=
  match (msg.headers.find? fun header => header.1 == "x-attempts").map Prod.snd with
  | some (.number (.finite value)) => if 0 ≤ value then ⌊value⌋.toNat else 0
  | _ => 0

/-- The message with its attempts counted. -/
def Message.retry (msg : Message) (attempts : ℕ) : Message :=
  { msg with
    headers := (msg.headers.filter fun header => header.1 != "x-attempts") ++
      [("x-attempts", .number (.finite attempts))] }

def republishForRetry (msg : Message) (attempts : ℕ) : Service Bool := do
  if msg.exchange = "" ∨ msg.routingKey = "" then pure false
  else orThrow (← request (.publish (msg.retry attempts)))

/-! ## Processed messages -/

def finalizeError (consumer : Consumer) (messageId : String) : Thrown :=
  match consumer with
  | .rabbitMq =>
      .transient s!"failed to finalize processed message as COMPLETED messageId={messageId}"
  | .email =>
      .transient s!"failed to finalize email processed message as COMPLETED messageId={messageId}"

def markCompleted (consumer : Consumer) (messageId : String) : Service Unit := do
  let updated ← orThrow (← request (.markCompleted messageId))
  if updated ≠ 1 then throw (finalizeError consumer messageId)

/-- A failing statement is logged. -/
def markFailed (messageId : String) (error : Thrown) : Service Unit := do
  let _ ← request (.markFailed messageId error.text)
  pure ()

/-! ## `handleMessage` -/

def safeAck : Service Unit := do
  let _ ← request .ack
  pure ()

def safeNack : Service Unit := do
  let _ ← request (.nack false)
  pure ()

/-- `msg.properties.messageId ?? parsed.eventId`, unless it is falsy. -/
def messageIdOf (config : ConsumerConfig) (msg : Message) (parsed : Json) : Option String :=
  match msg.messageId with
  | some messageId => if messageId = "" then none else some messageId
  | none => ((parsed.property "eventId").filter Json.truthy).map config.toText

structure ParsedMessage where
  parsed : Json
  messageId : String

def parseMessage (config : ConsumerConfig) (msg : Message) : Except Thrown ParsedMessage := do
  let parsed ← parseConsumedEventMessage msg.content
  match messageIdOf config msg parsed with
  | some messageId => pure { parsed, messageId }
  | none => throw (.permanent "messageId is missing")

def claim (config : ConsumerConfig) (msg : Message) : Service (ParsedMessage × Bool) := do
  let message ← orThrow (parseMessage config msg)
  let eventType := (message.parsed.property "type").elim "UNKNOWN" config.toText
  let claimed ← orThrow (← request (.claim message.messageId eventType config.claimTtlMs))
  pure (message, claimed)

def process (config : ConsumerConfig) (consumer : Consumer) (message : ParsedMessage) :
    Service Unit := do
  let type := message.parsed.property "type"
  let payload := message.parsed.property "payload"
  match consumer with
  | .rabbitMq => dispatch config type payload
  | .email => dispatchEmail config type payload
  markCompleted consumer message.messageId

def republish (config : ConsumerConfig) (msg : Message) (error : Thrown) : Service Bool := do
  let nextAttempts := getConsumeMessageAttempts msg + 1
  if isTransientConsumerError error = true ∧ nextAttempts ≤ config.maxRetries then
    republishForRetry msg nextAttempts
  else pure false

/-- The end of the `catch`. -/
def giveBack (config : ConsumerConfig) (msg : Message) (error : Thrown) : Service Unit := do
  if ← republish config msg error then safeAck else safeNack

/-- The `try` of the source is cut where the message is claimed, since its `catch` marks
only a claimed message as failed. -/
def handleMessage (config : ConsumerConfig) (consumer : Consumer) (msg : Message) :
    Service Unit := do
  match ← Program.attempt (claim config msg) with
  | .error error => giveBack config msg error
  | .ok (message, claimed) =>
      if claimed then
        match ← Program.attempt (process config consumer message) with
        | .ok _ => safeAck
        | .error error =>
            markFailed message.messageId error
            giveBack config msg error
      else safeAck

/-- What the channel calls for each delivery. -/
def consume (config : ConsumerConfig) (consumer : Consumer) : Service Unit := do
  let msg ← request .receive
  handleMessage config consumer msg

/-! ## Runs -/

section Runs

variable {Worker : Type} [DecidableEq Worker]

abbrev Result := Except Thrown Unit

abbrev Configuration (Worker : Type) :=
  Foundation.Configuration interface Worker (State Worker) Result

abbrev Label (Worker : Type) := Foundation.Action Worker Choice (Occurrence Worker)

structure Deployment (Worker : Type) where
  consumers : Worker → Consumer
  config : ConsumerConfig := {}

namespace Deployment

variable (deployment : Deployment Worker)

def machine : Machine interface Worker Choice (Occurrence Worker) (State Worker) :=
  Messaging.machine deployment.consumers deployment.config.topology

def step (current : Configuration Worker) (label : Label Worker) :
    Option (Configuration Worker) :=
  deployment.machine.step current label

def program (worker : Worker) : Program interface Result :=
  (consume deployment.config (deployment.consumers worker)).run

omit [DecidableEq Worker] in
def initial (now : ℕ) : Configuration Worker where
  shared :=
    { queue := fun _ => []
      deadLetters := fun _ => []
      rows := fun _ _ => none
      effects := []
      handling := fun _ => {}
      now
      dispatches := []
      published := [] }
  program := deployment.program
  begun _ := false

omit [DecidableEq Worker] in
/-- Workers of one consumer, with the default settings. -/
def only (consumer : Consumer) : Deployment Worker where
  consumers _ := consumer

end Deployment

end Runs

end BankingBackend.Messaging
