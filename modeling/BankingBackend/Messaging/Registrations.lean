import BankingBackend.Auth.Service
import BankingBackend.Foundation.Monitor
import BankingBackend.Messaging.Consumer
import BankingBackend.Messaging.Encoding

/-! # Registration events

What the outbox publishes of a registration event, where it is routed and which of
the consumers take it.
-/

namespace BankingBackend.Messaging

open Auth (UserRegisteredEvent)
open Foundation Postgres
open Outbox (ClaimedEventRow OutboxConfig OutboxPublishMessage PublishOptions publishEvent)

/-! ## From the outbox to the queues -/

def encodeRegistered (event : UserRegisteredEvent) : Json :=
  .object [("actorId", .string event.actorId.toText),
    ("resourceId", .string event.resourceId.toText),
    ("traceId", .string event.traceId),
    ("metadata", .object [("userAgent", nullable event.userAgent),
      ("clientIpMasked", nullable event.clientIpMasked)])]

/-- The settings of the outbox and of the consumers, which share their exchange. `toISOString`
writes a date. The exchange without a name cannot be declared. -/
structure EventSettings where
  outbox : OutboxConfig := {}
  consumers : ConsumerConfig := {}
  toISOString : ℕ → String
  shared : outbox.exchange = consumers.topology.exchange
  named : outbox.exchange ≠ ""

/-- No environment variable is set. -/
def defaultSettings (toISOString : ℕ → String) : EventSettings where
  outbox :=
    { batchSizePositive := Nat.succ_pos 19
      maxRetriesPositive := Nat.succ_pos 4
      retryBaseDelayMsPositive := Nat.succ_pos 999
      claimTtlMsPositive := Nat.succ_pos 299999 }
  consumers :=
    { maxRetriesPositive := Nat.succ_pos 4
      claimTtlMsPositive := Nat.succ_pos 299999 }
  toISOString := toISOString
  shared := rfl
  named := by decide

section Publishing

variable (settings : EventSettings)

def delivered (exchange routingKey : String) (message : OutboxPublishMessage UserRegisteredEvent)
    (options : PublishOptions) : Message where
  exchange
  routingKey
  messageId := some options.messageId.toText
  headers :=
    [("eventType", .string options.headers.eventType),
      ("source", .string options.headers.source),
      ("schemaVersion", .string options.headers.schemaVersion)]
  content := .ok (.object
    [("eventId", .string message.eventId.toText),
      ("type", .string message.type),
      ("occurredAt", .string (settings.toISOString message.occurredAt)),
      ("schemaVersion", .string message.schemaVersion),
      ("payload", encodeRegistered message.payload)])

def Publishes (row : ClaimedEventRow UserRegisteredEvent) (msg : Message) : Prop :=
  ∃ answers exchange routingKey message options answer,
    ⟨.publish exchange routingKey message options, answer⟩ ∈
      (Monitor.answered answers (publishEvent settings.outbox row).run).2 ∧
    msg = delivered settings exchange routingKey message options

end Publishing

/-! ## At a consumer -/

/-- The message is claimed, the customer is found, and the database and the mail transport
work. -/
structure Working (customerId : String)
    (answers : (op : interface.Op) → interface.Answer op) : Prop where
  claim : ∀ messageId eventType claimTtlMs,
    answers (.claim messageId eventType claimTtlMs) = .ok true
  markCompleted : ∀ messageId, answers (.markCompleted messageId) = .ok 1
  auditLogCreate : ∀ data, answers (.auditLogCreate data) = .ok ()
  customerFindUnique : ∃ customer, answers (.customerFindUnique customerId) = .ok (some customer)
  sendMail : ∀ message, answers (.sendMail message) = .ok ()

/-- What `handleMessage` does with a delivery up to its end. -/
def take (config : ConsumerConfig) (consumer : Consumer) (msg : Message) : Service Unit := do
  let (message, claimed) ← claim config msg
  if claimed then process config consumer message

def Thrown.permanent? : Thrown → Bool
  | .error .permanentConsumerError _ _ _ _ => true
  | _ => false

/-- The consumer ends in no permanent error when everything around it works. -/
def Consumed (config : ConsumerConfig) (consumer : Consumer) (customerId : String)
    (msg : Message) : Prop :=
  ∀ answers, Working customerId answers → ∀ error,
    Monitor.outcome answers (take config consumer msg) = .error error → error.permanent? = false

/-- Every message for the row is consumed at every queue that it reaches. -/
def ConsumedEverywhere (settings : EventSettings) (row : ClaimedEventRow UserRegisteredEvent) :
    Prop :=
  ∀ msg, Publishes settings row msg → ∀ consumer,
    settings.consumers.topology.routes msg consumer = true →
      Consumed settings.consumers consumer row.payload.actorId.toText msg

/-! ## What is published -/

def published (settings : EventSettings) (row : ClaimedEventRow UserRegisteredEvent) : Message :=
  delivered settings settings.outbox.exchange row.type.toLower
    { eventId := row.id
      type := row.type
      occurredAt := row.createdAt
      schemaVersion := Outbox.BANKING_EVENT_SCHEMA_VERSION
      payload := row.payload }
    { messageId := row.id
      timestamp := row.createdAt
      headers :=
        { eventType := row.type
          source := "banking-backend"
          schemaVersion := Outbox.BANKING_EVENT_SCHEMA_VERSION } }

def registration (row : ClaimedEventRow UserRegisteredEvent) (event : UserRegisteredEvent) :
    ClaimedEventRow UserRegisteredEvent :=
  { row with type := "USER_REGISTERED", payload := event }

section Published

variable {settings : EventSettings} {row : ClaimedEventRow UserRegisteredEvent} {msg : Message}

def AsksFor (settings : EventSettings) (row : ClaimedEventRow UserRegisteredEvent)
    (command : (Outbox.interface UserRegisteredEvent).Op) : Prop :=
  ∀ exchange routingKey message options, command = .publish exchange routingKey message options →
    delivered settings exchange routingKey message options = published settings row

theorem issues_publishEvent (settings : EventSettings)
    (row : ClaimedEventRow UserRegisteredEvent) :
    Program.Issues (AsksFor settings row) (publishEvent settings.outbox row) := by
  have requests {command : Outbox.Command UserRegisteredEvent}
      (asks : AsksFor settings row command) :
      Program.Issues (AsksFor settings row) (Outbox.request command) := ⟨asks, fun _ => trivial⟩
  have throws (answer : Except String Unit) :
      Program.Issues (AsksFor settings row) (Outbox.orThrow answer) := by
    cases answer with
    | ok value => exact Program.issues_pure value
    | error message => exact Program.issues_throw message
  refine (requests (by rintro _ _ _ _ ⟨⟩)).bind fun ready => (throws ready).bind fun _ => ?_
  refine (requests (by rintro _ _ _ _ ⟨⟩)).bind fun exists_ => (throws exists_).bind fun _ => ?_
  refine (requests ?_).bind fun confirmed => throws confirmed
  rintro _ _ _ _ ⟨⟩
  rfl

def takesAll : (op : (Outbox.interface UserRegisteredEvent).Op) →
    (Outbox.interface UserRegisteredEvent).Answer op
  | .claimNextBatch _ _ => .ok []
  | .updateMany _ _ _ => .ok 0
  | .getPublisherChannel _ => .ok ()
  | .assertExchange _ => .ok ()
  | .publish _ _ _ _ => .ok ()
  | .dateNow => (0 : ℕ)

theorem publishes_iff : Publishes settings row msg ↔ msg = published settings row := by
  constructor
  · rintro ⟨answers, exchange, routingKey, message, options, answer, member, rfl⟩
    exact Monitor.answered_only (issues_publishEvent settings row) answers _ member _ _ _ _ rfl
  · rintro rfl
    exact ⟨takesAll, _, _, _, _, .ok (), .tail _ (.tail _ (.head _)), rfl⟩

end Published

/-! ## What the consumers make of it -/

section Outcomes

variable {answers : (op : interface.Op) → interface.Answer op} {α β : Type}

@[simp] theorem outcome_orThrow (result : Except Thrown α) :
    Monitor.outcome answers (orThrow result) = result := by
  cases result <;> rfl

theorem outcome_asking {command : Command} {value : α} {next : α → Service β}
    {convert : command.Answer → Except Thrown α} (answered : convert (answers command) = .ok value) :
    Monitor.outcome answers (do next (← orThrow (convert (← request command)))) =
      Monitor.outcome answers (next value) := by
  refine (Monitor.outcome_lift answers command _).trans ?_
  rw [Monitor.outcome_bind, outcome_orThrow, answered]
  rfl

end Outcomes

section Registrations

variable {settings : EventSettings} {row : ClaimedEventRow UserRegisteredEvent}
  {event : UserRegisteredEvent} {customerId : String}
  {answers : (op : interface.Op) → interface.Answer op}

theorem ne_empty_of_filled {text : String} (filled : Filled text) : text ≠ "" := by
  rintro rfl
  exact filled (by decide)

def parsedRegistration (settings : EventSettings) (row : ClaimedEventRow UserRegisteredEvent)
    (event : UserRegisteredEvent) : ParsedMessage where
  parsed := .object
    [("eventId", .string row.id.toText),
      ("type", .string "USER_REGISTERED"),
      ("occurredAt", .string (settings.toISOString row.createdAt)),
      ("schemaVersion", .string Outbox.BANKING_EVENT_SCHEMA_VERSION),
      ("payload", encodeRegistered event)]
  messageId := row.id.toText

theorem parse_registration (config : ConsumerConfig) :
    parseMessage config (published settings (registration row event)) =
      .ok (parsedRegistration settings row event) := by
  have named : messageIdOf config (published settings (registration row event))
      (parsedRegistration settings row event).parsed = some row.id.toText :=
    if_neg (ne_empty_of_filled (filled_toText row.id))
  have parsed : parseConsumedEventMessage (published settings (registration row event)).content =
      .ok (parsedRegistration settings row event).parsed := by
    have supported : trim Outbox.BANKING_EVENT_SCHEMA_VERSION ≠ "" := by decide
    simp [parseConsumedEventMessage, published, delivered, registration, parsedRegistration,
      property_cons, Json.truthy, assertSupportedSchemaVersion, Json.string?, supported]
    rfl
  unfold parseMessage
  rw [parsed]
  simp only [bind, Except.bind, named]
  rfl

theorem outcome_claim (working : Working customerId answers) (config : ConsumerConfig) :
    Monitor.outcome answers (claim config (published settings (registration row event))) =
      .ok (parsedRegistration settings row event, true) := by
  unfold claim
  rw [parse_registration]
  exact (outcome_asking (working.claim _ _ _)).trans rfl

theorem outcome_take (working : Working customerId answers) (config : ConsumerConfig)
    (consumer : Consumer) :
    Monitor.outcome answers (take config consumer (published settings (registration row event))) =
      Monitor.outcome answers (process config consumer (parsedRegistration settings row event)) := by
  unfold take
  rw [Monitor.outcome_bind, outcome_claim working]
  rfl

theorem registration_type :
    (parsedRegistration settings row event).parsed.property "type" =
      some (.string "USER_REGISTERED") := by
  simp [parsedRegistration, property_cons]

theorem registration_payload :
    (parsedRegistration settings row event).parsed.property "payload" =
      some (encodeRegistered event) := by
  simp [parsedRegistration, property_cons]

/-! ### `RabbitMqTransactionEventDispatcher` -/

/-- The dispatcher knows no registrations. -/
theorem outcome_dispatch_registration (config : ConsumerConfig) :
    Monitor.outcome answers (process config .rabbitMq (parsedRegistration settings row event)) =
      .error (.permanent "unsupported event type: USER_REGISTERED") := by
  unfold process dispatch
  rw [registration_type]
  rfl

/-! ### `EmailConsumer` -/

theorem trim_toText (id : Uuid) : trim id.toText = id.toText := by
  have visible : ∀ index < 16, isSpace (Uuid.hexDigits.getD index '0') = false := by decide
  have digits {character : Char} (member : character ∈ (List.range 32).map fun position =>
      Uuid.hexDigits.getD (id.bits.toNat / 16 ^ (31 - position) % 16) '0') :
      isSpace character = false := by
    rcases List.mem_map.mp member with ⟨position, _, rfl⟩
    exact visible _ (Nat.mod_lt _ (by decide))
  refine trim_eq_self fun character member => ?_
  simp only [Uuid.toText, String.toList_ofList, List.mem_append, List.mem_cons] at member
  rcases member with (((member | rfl | member) | rfl | member) | rfl | member) | rfl | member
  · exact digits (List.mem_of_mem_take member)
  · decide
  · exact digits (List.mem_of_mem_drop (List.mem_of_mem_take member))
  · decide
  · exact digits (List.mem_of_mem_drop (List.mem_of_mem_take member))
  · decide
  · exact digits (List.mem_of_mem_drop (List.mem_of_mem_take member))
  · decide
  · exact digits (List.mem_of_mem_drop member)

theorem validate_registration (traceId : Filled event.traceId) :
    validateUserRegisteredPayload (some (encodeRegistered event)) = .ok
      { actorId := event.actorId.toText
        resourceId := event.resourceId.toText
        traceId := trim event.traceId } := by
  have object : (encodeRegistered event).isObject = true := rfl
  have required {text : String} (filled : Filled text) (field : String) :
      requiredTrimmed (some (.string text)) field = .ok (trim text) := if_neg filled
  simp only [validateUserRegisteredPayload, object, if_true]
  simp [encodeRegistered, property_cons, required (filled_toText _), required traceId, trim_toText]
  rfl

/-- A transport that is not set up throws plain errors. -/
theorem outcome_send (working : Working customerId answers) (config : EmailConfig)
    (message : EmailMessage) :
    Monitor.outcome answers (send config message) = .ok () ∨
      ∃ text, Monitor.outcome answers (send config message) = .error (.plain text) := by
  unfold send
  split
  · split
    · unfold sendgridSend
      split
      · exact .inr ⟨_, rfl⟩
      · exact .inr ⟨_, rfl⟩
    · unfold smtpSend
      split
      · exact .inr ⟨_, rfl⟩
      · refine .inl ?_
        refine (Monitor.outcome_lift answers _ _).trans ?_
        rw [working.sendMail]
        rfl
  · exact .inl rfl

theorem outcome_markCompleted (working : Working customerId answers) (consumer : Consumer)
    (messageId : String) :
    Monitor.outcome answers (markCompleted consumer messageId) = .ok () :=
  (outcome_asking (working.markCompleted messageId)).trans rfl

theorem outcome_findCustomer (working : Working customerId answers) :
    ∃ customer, Monitor.outcome answers (findCustomer customerId) = .ok customer := by
  rcases working.customerFindUnique with ⟨customer, found⟩
  exact ⟨customer, (outcome_asking found).trans rfl⟩

theorem outcome_dispatchEmail_registration (working : Working event.actorId.toText answers)
    (traceId : Filled event.traceId) (config : ConsumerConfig) :
    Monitor.outcome answers (process config .email (parsedRegistration settings row event)) =
        .ok () ∨
      ∃ text, Monitor.outcome answers
        (process config .email (parsedRegistration settings row event)) = .error (.plain text) := by
  rcases outcome_findCustomer working with ⟨customer, found⟩
  have dispatched : Monitor.outcome answers (dispatchEmail config (some (.string "USER_REGISTERED"))
      (some (encodeRegistered event))) =
        Monitor.outcome answers (sendTo config customer (buildWelcomeEmailContent customer.name)) := by
    unfold dispatchEmail
    rw [if_neg (by decide), if_pos (by decide), validate_registration traceId]
    refine (Monitor.outcome_bind answers (findCustomer event.actorId.toText) fun customer =>
      sendTo config customer (buildWelcomeEmailContent customer.name)).trans ?_
    rw [found]
    rfl
  simp only [process, registration_type, registration_payload]
  rw [Monitor.outcome_bind, dispatched]
  rcases outcome_send working config.email _ with sent | ⟨text, fails⟩
  · refine .inl ?_
    rw [sendTo, sent]
    exact outcome_markCompleted working .email _
  · refine .inr ⟨text, ?_⟩
    rw [sendTo, fails]
    rfl

/-! ### Both queues -/

def works : (op : interface.Op) → interface.Answer op
  | .receive => { exchange := "", routingKey := "", messageId := none, content := .ok .null }
  | .claim _ _ _ => .ok true
  | .markCompleted _ => .ok (1 : ℕ)
  | .markFailed _ _ => .ok ()
  | .auditLogCreate _ => .ok ()
  | .customerFindUnique _ => .ok (some { email := "a@b.co", name := "A" })
  | .sendMail _ => .ok ()
  | .publish _ => .ok true
  | .ack => .ok ()
  | .nack _ => .ok ()

theorem working_works (customerId : String) : Working customerId works where
  claim _ _ _ := rfl
  markCompleted _ := rfl
  auditLogCreate _ := rfl
  customerFindUnique := ⟨_, rfl⟩
  sendMail _ := rfl

theorem routes_registration (settings : EventSettings) (row : ClaimedEventRow UserRegisteredEvent)
    (event : UserRegisteredEvent) (consumer : Consumer) :
    settings.consumers.topology.routes (published settings (registration row event)) consumer =
      true := by
  have key : "USER_REGISTERED".toLower = "user_registered" := by decide +kernel
  have bound : Topology.bound consumer "USER_REGISTERED".toLower = true := by
    rw [key]
    cases consumer <;> decide
  have exchange : (published settings (registration row event)).exchange =
      settings.outbox.exchange := rfl
  unfold Topology.routes
  rw [if_neg (exchange ▸ settings.named), exchange, settings.shared, beq_self_eq_true,
    Bool.true_and]
  exact bound

theorem not_consumed_registration (config : ConsumerConfig) :
    ¬Consumed config .rabbitMq customerId (published settings (registration row event)) := by
  intro consumed
  have works := working_works customerId
  have refused := consumed _ works _
    ((outcome_take works config .rabbitMq).trans (outcome_dispatch_registration config))
  cases refused

/-- Of the two consumers that the message reaches, only one takes it. -/
theorem consumed_registration_iff (traceId : Filled event.traceId) (consumer : Consumer) :
    Consumed settings.consumers consumer event.actorId.toText
      (published settings (registration row event)) ↔ consumer = .email := by
  cases consumer with
  | rabbitMq =>
      exact iff_of_false (not_consumed_registration settings.consumers) (by rintro ⟨⟩)
  | email =>
      refine iff_of_true (fun answers working error ended => ?_) rfl
      rw [outcome_take working] at ended
      rcases outcome_dispatchEmail_registration working traceId settings.consumers with
        taken | ⟨text, fails⟩
      · rw [taken] at ended
        cases ended
      · rw [fails] at ended
        cases ended
        rfl

theorem not_consumedEverywhere (settings : EventSettings)
    (row : ClaimedEventRow UserRegisteredEvent) (event : UserRegisteredEvent) :
    ¬ConsumedEverywhere settings (registration row event) := by
  intro everywhere
  exact not_consumed_registration settings.consumers (everywhere _ (publishes_iff.mpr rfl) .rabbitMq
    (routes_registration settings row event .rabbitMq))

end Registrations

end BankingBackend.Messaging
