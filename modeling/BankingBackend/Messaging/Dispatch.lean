import BankingBackend.Foundation.Rounding
import BankingBackend.Foundation.Significant
import BankingBackend.Messaging.Server

/-! # Dispatching a message

`RabbitMqTransactionEventDispatcher` writes an audit row for a transaction event;
`EmailConsumer.dispatchEmail` sends the customer an e-mail through `EmailService`.
-/

namespace BankingBackend.Messaging

open Foundation
open Postgres (TransactionType Outcome)

abbrev Service (α : Type) := ExceptT Thrown (Program interface) α

def request (command : Command) : Service command.Answer :=
  ExceptT.lift (.call command .done : Program interface command.Answer)

def orThrow {α : Type} : Except Thrown α → Service α
  | .ok value => pure value
  | .error error => throw error

/-! ## Configuration -/

/-- The environment variables of `EmailService` and its transports. -/
structure EmailConfig where
  enabled : Option String := none
  provider : Option String := none
  sender : String := "no-reply@banking.local"
  smtpHost : Option String := none
  sendgridApiKey : Option String := none

/-- `RABBITMQ_CONSUMER_MAX_RETRIES` and the other settings, the numbers positive. `textOf`
writes a value that is not a string as a text. -/
structure ConsumerConfig where
  topology : Topology := {}
  maxRetries : ℕ := 5
  claimTtlMs : ℕ := 300000
  email : EmailConfig := {}
  textOf : Json → String := fun _ => ""
  maxRetriesPositive : 0 < maxRetries := by decide
  claimTtlMsPositive : 0 < claimTtlMs := by decide

def ConsumerConfig.toText (config : ConsumerConfig) : Json → String
  | .string text => text
  | json => config.textOf json

/-! ## `AuditService` -/

structure AuditRecordInput where
  action : Action
  customerId : String
  entityType : String
  entityId : String
  actorId : Option String
  resourceId : Option String
  traceId : Option String
  reasonCode : Option String := none
  ipAddress : Option String
  userAgent : Option String
  metadata : Json

/-- A consumer runs outside of any request, so that the request context is empty. -/
def record (input : AuditRecordInput) (outcome : Outcome) : Service Unit := do
  orThrow (← request (.auditLogCreate
    { action := input.action
      outcome
      customerId := input.customerId
      entityType := input.entityType
      entityId := input.entityId
      actorId := input.actorId.getD input.customerId
      resourceId := input.resourceId.getD input.entityId
      traceId := input.traceId
      reasonCode := input.reasonCode
      metadata := input.metadata
      ipAddress := input.ipAddress
      userAgent := input.userAgent }))

def recordSuccess (input : AuditRecordInput) : Service Unit := record input .success

def recordFailure (input : AuditRecordInput) : Service Unit := record input .failure

/-! ## `RabbitMqTransactionEventDispatcher` -/

def actionOf : TransactionType → Action
  | .deposit => .deposit
  | .withdraw => .withdraw
  | .transfer => .transfer

def auditInput (payload : ValidatedPayload) : AuditRecordInput where
  action := actionOf payload.transactionType
  customerId := payload.actorId
  entityType := "TRANSACTION"
  entityId := payload.resourceId
  actorId := some payload.actorId
  resourceId := some payload.resourceId
  traceId := some payload.traceId
  ipAddress := payload.clientIpMasked
  userAgent := payload.userAgent
  metadata := payload.metadata

def isType (type : Option Json) (text : String) : Bool := type.any (Json.isText text)

def dispatch (config : ConsumerConfig) (type payload : Option Json) : Service Unit := do
  if isType type "TRANSACTION_COMPLETED" then
    let payload ← orThrow (validateTransactionEventPayload payload)
    recordSuccess (auditInput payload)
  else if isType type "TRANSACTION_FAILED" then
    let payload ← orThrow (validateTransactionEventPayload payload)
    recordFailure { auditInput payload with reasonCode := payload.reasonCode }
  else
    let type := type.elim "undefined" config.toText
    throw (.permanent s!"unsupported event type: {type}")

/-! ## `EmailService` -/

def parseBoolean (value : Option String) (fallback : Bool) : Bool :=
  match value with
  | none => fallback
  | some value =>
      match (trim value).toLower with
      | "true" => true
      | "false" => false
      | _ => fallback

def unset (value : Option String) : Bool := value.getD "" == ""

def smtpSend (config : EmailConfig) (message : EmailMessage) : Service Unit := do
  if unset config.smtpHost then
    throw (.plain "EMAIL_SMTP_HOST is required for SMTP email transport")
  orThrow (← request (.sendMail { message with sender := config.sender }))

def sendgridSend (config : EmailConfig) : Service Unit := do
  if unset config.sendgridApiKey then
    throw (.plain "SENDGRID_API_KEY is required for SendGrid transport")
  throw (.plain "SendGrid transport is not implemented yet")

/-- An e-mail is dropped while sending is disabled. -/
def send (config : EmailConfig) (message : EmailMessage) : Service Unit := do
  if parseBoolean config.enabled true then
    if config.provider = some "sendgrid" then sendgridSend config
    else smtpSend config message

/-! ## `EmailConsumer.dispatchEmail` -/

/-- `toFixed(2)`: the double is rounded, not the decimal it was read from. -/
def toFixed2 (config : ConsumerConfig) (amount : ℚ) : String :=
  let value := binary64 amount
  if 10 ^ 21 ≤ |value| then config.textOf (.number (.finite amount))
  else
    let cents := (roundHalfAway (|value| * 100)).toNat
    let fraction := toString (cents % 100)
    let padded := if cents % 100 < 10 then "0" ++ fraction else fraction
    (if amount < 0 then "-" else "") ++ toString (cents / 100) ++ "." ++ padded

def typeText : TransactionType → String
  | .deposit => "DEPOSIT"
  | .withdraw => "WITHDRAW"
  | .transfer => "TRANSFER"

def buildTransactionEmailContent (config : ConsumerConfig) (customerName : String)
    (completed : Bool) (payload : ValidatedPayload) : String × String :=
  let amount := toFixed2 config payload.amount
  let type := typeText payload.transactionType
  let transactionId := payload.resourceId
  let reason := payload.reasonCode.getD "UNKNOWN"
  if completed then
    (s!"Transaction successful: {type}",
      s!"Hi {customerName}, your {type} transaction ({transactionId}) for {amount} has completed successfully.")
  else
    (s!"Transaction failed: {type}",
      s!"Hi {customerName}, your {type} transaction ({transactionId}) for {amount} failed with reason {reason}.")

def buildWelcomeEmailContent (customerName : String) : String × String :=
  ("Welcome to Banking Backend",
    s!"Hi {customerName}, welcome to Banking Backend. Your account registration is complete.")

def findCustomer (actorId : String) : Service CustomerContact := do
  match ← orThrow (← request (.customerFindUnique actorId)) with
  | some customer => pure customer
  | none => throw (.permanent s!"customer not found: {actorId}")

def sendTo (config : ConsumerConfig) (customer : CustomerContact) (content : String × String) :
    Service Unit :=
  send config.email
    { sender := config.email.sender
      to_ := customer.email
      subject := content.1
      text := content.2 }

def dispatchEmail (config : ConsumerConfig) (type payload : Option Json) : Service Unit := do
  if isType type "TRANSACTION_COMPLETED" || isType type "TRANSACTION_FAILED" then
    let validated ← orThrow (validateTransactionEventPayload payload)
    let customer ← findCustomer validated.actorId
    sendTo config customer (buildTransactionEmailContent config customer.name
      (isType type "TRANSACTION_COMPLETED") validated)
  else if isType type "USER_REGISTERED" then
    let validated ← orThrow (validateUserRegisteredPayload payload)
    let customer ← findCustomer validated.actorId
    sendTo config customer (buildWelcomeEmailContent customer.name)
  else
    let type := type.elim "unknown" config.toText
    throw (.permanent s!"unsupported email event type: {type}")

end BankingBackend.Messaging
