import BankingBackend.Messaging.Outputs
import BankingBackend.Platform.Links

/-! # What the consumers make of a row

The message of a row is parsed as it was written, so that the audit rows and the
e-mails repeat what the transaction of the event says.
-/

namespace BankingBackend.Platform

open Foundation
open Auth (UserRegisteredEvent)
open Messaging (AuditLogData Consumer ConsumerConfig CustomerContact EmailMessage EventSettings
  Output auditRow decoded encodeMetadata isType mailTo typeText)
open Outbox (Contents)
open Postgres (Event EventType Money Outcome Transaction TransactionEventPayload Uuid WholeCents)

/-! ## Parsing -/

def content (settings : EventSettings) (row : Contents EventPayload) : Json :=
  .object
    [("eventId", .string row.id.toText),
      ("type", .string row.type),
      ("occurredAt", .string (settings.toISOString row.createdAt)),
      ("schemaVersion", .string Outbox.BANKING_EVENT_SCHEMA_VERSION),
      ("payload", row.payload.encode)]

section Parsing

variable {settings : EventSettings} {row : Contents EventPayload}

theorem content_type : (content settings row).property "type" = some (.string row.type) := by
  simp [content, Messaging.property_cons]

theorem content_payload : (content settings row).property "payload" = some row.payload.encode := by
  simp [content, Messaging.property_cons]

theorem parse_messageOf (config : ConsumerConfig) (named : row.type ≠ "") :
    Messaging.parseMessage config (messageOf settings row) =
      .ok { parsed := content settings row, messageId := row.id.toText } := by
  have key : Messaging.messageIdOf config (messageOf settings row) (content settings row) =
      some row.id.toText :=
    if_neg (Messaging.ne_empty_of_filled (Messaging.filled_toText row.id))
  have parsed : Messaging.parseConsumedEventMessage (messageOf settings row).content =
      .ok (content settings row) := by
    have supported : trim Outbox.BANKING_EVENT_SCHEMA_VERSION ≠ "" := by decide
    simp [Messaging.parseConsumedEventMessage, messageOf, sent, content,
      Messaging.property_cons, Json.truthy, Messaging.assertSupportedSchemaVersion, Json.string?,
      supported, named]
    rfl
  unfold Messaging.parseMessage
  rw [parsed]
  simp only [bind, Except.bind, key]
  rfl

theorem typeName_filled (type : EventType) : typeName type ≠ "" := by
  cases type <;> decide

theorem isType_typeName (type other : EventType) :
    isType (some (.string (typeName type))) (typeName other) = true ↔ type = other := by
  cases type <;> cases other <;> decide

theorem type_of_content {type : EventType} (other : EventType)
    (written : row.type = typeName type)
    (same : isType ((content settings row).property "type") (typeName other) = true) :
    type = other := by
  rw [content_type, written] at same
  exact (isType_typeName type other).mp same

end Parsing

/-! ## Audit rows -/

def auditOf (row : Transaction) (payload : TransactionEventPayload) : AuditLogData where
  action := Messaging.actionOf row.type
  outcome := if row.status = .completed then .success else .failure
  customerId := row.actorCustomerId.toText
  entityType := "TRANSACTION"
  entityId := row.id.toText
  actorId := row.actorCustomerId.toText
  resourceId := row.id.toText
  traceId := some payload.traceId
  reasonCode := if row.status = .completed then none else some "FRAUD_REJECTED"
  metadata := encodeMetadata payload.metadata
  ipAddress := payload.metadata.clientIpMasked
  userAgent := payload.metadata.userAgent

/-! ## E-mails -/

/-- Cents in currency units with two decimals. -/
def amountText (cents : ℕ) : String :=
  let fraction := toString (cents % 100)
  toString (cents / 100) ++ "." ++ if cents % 100 < 10 then "0" ++ fraction else fraction

/-- The e-mail about a settled transaction, in which the amount is that many cents. -/
def noticeTo (config : ConsumerConfig) (customer : CustomerContact) (row : Transaction)
    (cents : ℕ) : EmailMessage :=
  let type := typeText row.type
  let amount := amountText cents
  let reason := "FRAUD_REJECTED"
  mailTo config customer
    (if row.status = .completed then
      (s!"Transaction successful: {type}",
        s!"Hi {customer.name}, your {type} transaction ({row.id.toText}) for {amount} has completed successfully.")
    else
      (s!"Transaction failed: {type}",
        s!"Hi {customer.name}, your {type} transaction ({row.id.toText}) for {amount} failed with reason {reason}."))

/-- The cents differ from those of the column by one at most, and not at all if the column
holds the amount as it was asked for. Beyond that doubles are too far apart. -/
structure Approximates (asked : ℚ) (stored : Money) (cents : ℕ) : Prop where
  near : stored.cents < 10 ^ 15 → |(cents : ℤ) - stored.cents| ≤ 1
  whole : stored.cents < 10 ^ 15 → WholeCents asked → (cents : ℤ) = stored.cents

theorem binary64_bounds {amount : ℚ} (positive : 0 < amount) :
    0 ≤ binary64 amount ∧ binary64 amount ≤ 2 * amount := by
  have error := abs_binary64_sub_le amount
  rw [abs_of_pos positive, abs_le] at error
  constructor <;> linarith

theorem binary64_near {amount : ℚ} {money : Money}
    (assigned : Money.assign? amount = some money) (positive : 0 < amount)
    (small : money.cents < 10 ^ 15) : |binary64 amount * 100 - amount * 100| < 1 / 2 := by
  have nonneg : 0 ≤ amount * 100 := by positivity
  have bound := le_roundHalfAway nonneg
  rw [← Money.assign?_cents assigned] at bound
  have below : (money.cents : ℚ) < 10 ^ 15 := by exact_mod_cast small
  have error := abs_binary64_sub_le amount
  rw [abs_of_pos positive] at error
  calc |binary64 amount * 100 - amount * 100|
      = |binary64 amount - amount| * 100 := by
        rw [← sub_mul, abs_mul, abs_of_pos (by norm_num : (0 : ℚ) < 100)]
    _ ≤ amount / 2 ^ 53 * 100 := mul_le_mul_of_nonneg_right error (by norm_num)
    _ < 1 / 2 := by linarith

theorem approximates_binary64 {amount : ℚ} {money : Money}
    (assigned : Money.assign? amount = some money) (positive : 0 < amount) :
    Approximates amount money (roundHalfAway (binary64 amount * 100)).toNat := by
  have cents := Money.assign?_cents assigned
  have nonneg : 0 ≤ amount * 100 := by positivity
  have doubleNonneg : 0 ≤ binary64 amount * 100 :=
    mul_nonneg (binary64_bounds positive).1 (by norm_num)
  have natural := Int.toNat_of_nonneg (roundHalfAway_nonneg doubleNonneg)
  constructor
  · intro small
    rw [natural, cents]
    have near := binary64_near assigned positive small
    exact abs_roundHalfAway_sub_le doubleNonneg nonneg (near.trans (by norm_num))
  · rintro small ⟨whole, same⟩
    have near := binary64_near assigned positive small
    rw [natural, cents, same, roundHalfAway_intCast]
    rw [same] at near
    exact roundHalfAway_eq doubleNonneg near

/-- A deposit of 1.005 is stored as 1.01 and written as 1.00. -/
example : roundHalfAway (1.005 * 100 : ℚ) = 101 ∧
    roundHalfAway (binary64 (1.005 : ℚ) * 100) = 100 := by decide +kernel

theorem toFixed2_text (config : ConsumerConfig) {amount : ℚ} {money : Money}
    (assigned : Money.assign? amount = some money) (positive : 0 < amount) :
    ∃ cents, Approximates amount money cents ∧
      Messaging.toFixed2 config amount = amountText cents := by
  rcases binary64_bounds positive with ⟨doubleNonneg, doubled⟩
  have small : ¬10 ^ 21 ≤ |binary64 amount| := by
    intro large
    rw [abs_of_nonneg doubleNonneg] at large
    have nonneg : 0 ≤ amount * 100 := by positivity
    have bound := le_roundHalfAway nonneg
    rw [← Money.assign?_cents assigned] at bound
    have below : (money.cents : ℚ) < 10 ^ 18 := by exact_mod_cast (abs_lt.mp money.fits).2
    linarith
  refine ⟨_, approximates_binary64 assigned positive, ?_⟩
  unfold Messaging.toFixed2 amountText
  simp only
  rw [if_neg small, if_neg (not_lt.mpr positive.le), abs_of_nonneg doubleNonneg]
  simp [String.append_assoc]

/-! ## What is told of a row -/

section Telling

variable {settings : EventSettings} {config : ConsumerConfig}
  {contacts : String → CustomerContact → Prop} {consumer : Consumer} {output : Output}

theorem decoded_of_valid {event : Event} {payload : Messaging.ValidatedPayload}
    (valid : Messaging.validateTransactionEventPayload
      ((content settings (transactionRow event)).property "payload") = .ok payload) :
    decoded event.payload = payload := by
  rw [content_payload] at valid
  exact ((Messaging.validate_encodePayload event.payload payload).mp valid).2

variable {row : Transaction} {event : Event}

theorem auditRow_decoded (quotes : Quotes row event) {outcome : Outcome}
    {reasonCode : Option String}
    (settled : outcome = if row.status = .completed then .success else .failure)
    (reason : reasonCode = if row.status = .completed then none else some "FRAUD_REJECTED") :
    auditRow { Messaging.auditInput (decoded event.payload) with reasonCode } outcome =
      auditOf row event.payload := by
  rcases quotes.names with ⟨actorId, resourceId, type⟩
  simp [auditRow, Messaging.auditInput, decoded, auditOf, actorId, resourceId, type, settled,
    reason]

/-- `RabbitMqConsumer` writes the audit row of the transaction, and `EmailConsumer` sends
the e-mail about it. -/
theorem transaction_tells (quotes : Quotes row event)
    (tells : Messaging.Tells config contacts (content settings (transactionRow event)) consumer
      output) :
    consumer = .rabbitMq ∧ output = .auditLog (auditOf row event.payload) ∨
      consumer = .email ∧ ∃ customer, contacts row.actorCustomerId.toText customer ∧
        ∃ cents, Approximates event.payload.metadata.amount row.amount cents ∧
          output = .email (noticeTo config customer row cents) := by
  cases tells with
  | completed type valid =>
      have completed := quotes.told.completed_iff.mpr
        (type_of_content .transactionCompleted rfl type)
      rw [← decoded_of_valid valid]
      refine .inl ⟨rfl, congrArg Output.auditLog ?_⟩
      exact auditRow_decoded quotes (by rw [if_pos completed]) (by rw [if_pos completed])
  | failed type valid =>
      have rejected := quotes.told.rejected_iff.mpr
        (type_of_content .transactionFailed rfl type)
      have uncompleted : row.status ≠ .completed := by
        rw [rejected]
        decide
      rw [← decoded_of_valid valid]
      refine .inl ⟨rfl, congrArg Output.auditLog ?_⟩
      exact auditRow_decoded quotes (by rw [if_neg uncompleted]) quotes.reasonCode
  | @notifies payload customer completed type known valid found =>
      have read := decoded_of_valid valid
      rcases quotes.names with ⟨actorId, resourceId, transactionType⟩
      have told : completed = true ↔ row.status = .completed := by
        rw [quotes.told.completed_iff, ← isType_typeName event.type .transactionCompleted,
          ← type, content_type]
        rfl
      have reason := quotes.reasonCode
      subst read
      rcases toFixed2_text config quotes.amount quotes.positive with ⟨cents, close, amount⟩
      refine .inr ⟨rfl, customer, ?_, cents, close, ?_⟩
      · rw [← actorId]
        exact found
      · by_cases status : row.status = .completed
        · simp [noticeTo, Messaging.buildTransactionEmailContent, decoded, amount, resourceId,
            transactionType, status, told.mpr status]
        · have failed : completed = false := by
            rw [← Bool.not_eq_true, told]
            exact status
          rw [if_neg status] at reason
          simp [noticeTo, Messaging.buildTransactionEmailContent, decoded, amount, resourceId,
            transactionType, status, failed, reason]
  | welcomes type valid found =>
      have registered : event.type = .userRegistered := type_of_content .userRegistered rfl type
      cases quotes.told with
      | completed status announces => cases announces.type.symm.trans registered
      | rejected status announces => cases announces.type.symm.trans registered

def welcomeTo (config : ConsumerConfig) (customer : CustomerContact) : EmailMessage :=
  mailTo config customer (Messaging.buildWelcomeEmailContent customer.name)

theorem registered_actor {event : UserRegisteredEvent} {payload : Messaging.UserRegisteredPayload}
    (valid : Messaging.validateUserRegisteredPayload (some (Messaging.encodeRegistered event)) =
      .ok payload) : payload.actorId = event.actorId.toText := by
  have object : (Messaging.encodeRegistered event).isObject = true := rfl
  have found : (Messaging.encodeRegistered event).property "actorId" =
      some (.string event.actorId.toText) := by
    simp [Messaging.encodeRegistered, Messaging.property_cons]
  simp only [Messaging.validateUserRegisteredPayload, object, if_true, found] at valid
  rcases Messaging.bind_eq_ok.mp valid with ⟨actorId, required, rest⟩
  rcases Messaging.bind_eq_ok.mp rest with ⟨resourceId, _, rest⟩
  rcases Messaging.bind_eq_ok.mp rest with ⟨traceId, _, same⟩
  cases same
  unfold Messaging.requiredTrimmed at required
  split at required
  · cases required
  · have trimmed : trim event.actorId.toText = actorId := Except.ok.inj required
    rw [← trimmed]
    exact Messaging.trim_toText event.actorId

/-- A registration is told to the customer only. -/
theorem registration_tells {createdAt : ℕ} {id : Uuid} {event : UserRegisteredEvent}
    (tells : Messaging.Tells config contacts (content settings (registrationRow createdAt id event))
      consumer output) :
    consumer = .email ∧ ∃ customer, contacts event.actorId.toText customer ∧
      output = .email (welcomeTo config customer) := by
  -- A registration has the type of no transaction, so that only the welcome is left.
  have typed (other : EventType)
      (same : isType ((content settings (registrationRow createdAt id event)).property "type")
        (typeName other) = true) : EventType.userRegistered = other :=
    type_of_content other rfl same
  cases tells with
  | completed type valid => cases typed .transactionCompleted type
  | failed type valid => cases typed .transactionFailed type
  | @notifies payload customer completed type known valid found =>
      cases completed with
      | true => cases typed .transactionCompleted type
      | false => cases typed .transactionFailed (known rfl)
  | @welcomes payload customer type valid found =>
      rw [content_payload] at valid
      rw [registered_actor valid] at found
      exact ⟨rfl, customer, found, rfl⟩

end Telling

end BankingBackend.Platform
