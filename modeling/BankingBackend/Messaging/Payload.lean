import BankingBackend.Foundation.Json
import BankingBackend.Messaging.Errors
import BankingBackend.Outbox.Service

/-! # Consumed messages

`parseConsumedEventMessage` and `validateTransactionEventPayload`.
-/

namespace BankingBackend.Messaging

open Foundation
open Outbox (BANKING_EVENT_SCHEMA_VERSION)
open Postgres (TransactionType Outcome)

/-- What `JSON.parse` makes of the bytes of a message: a value, or the message of its
error. -/
abbrev Content := Except String Json

/-! ## Envelope -/

def assertSupportedSchemaVersion (value : Option Json) : Except Thrown Unit :=
  match value.bind Json.string? with
  | none => throw (.permanent "schemaVersion is missing or empty")
  | some value =>
      if trim value = "" then throw (.permanent "schemaVersion is missing or empty")
      else if value ≠ BANKING_EVENT_SCHEMA_VERSION then
        throw (.permanent
          s!"unsupported schemaVersion: {value} (supported: {BANKING_EVENT_SCHEMA_VERSION})")
      else pure ()

def parseConsumedEventMessage (content : Content) : Except Thrown Json :=
  match content with
  | .error message => throw (.permanent s!"invalid message JSON: {message}")
  | .ok .null => throw (.permanent
      "invalid message JSON: Cannot read properties of null (reading 'type')")
  | .ok parsed => do
      if (parsed.property "type").any Json.truthy then
        assertSupportedSchemaVersion (parsed.property "schemaVersion")
        pure parsed
      else throw (.permanent "event type is missing")

/-! ## Transaction payloads -/

structure ValidatedPayload where
  actorId : String
  resourceId : String
  traceId : String
  outcome : Outcome
  reasonCode : Option String
  transactionType : TransactionType
  referenceId : String
  amount : ℚ
  clientIpMasked : Option String
  userAgent : Option String
  metadata : Json

def invalidPayload (field : String) : Thrown := .permanent s!"invalid transaction payload: {field}"

def requiredText (value : Option Json) (field : String) : Except Thrown String :=
  match value with
  | some (.string text) => if trim text ≠ "" then pure text else throw (invalidPayload field)
  | _ => throw (invalidPayload field)

/-- Missing, `null` or a string that is not empty. -/
def optionalText (value : Option Json) (field : String) : Except Thrown (Option String) :=
  match value with
  | none | some .null => pure none
  | some (.string text) => if trim text ≠ "" then pure (some text) else throw (invalidPayload field)
  | some _ => throw (invalidPayload field)

def requiredObject (value : Option Json) (field : String) : Except Thrown Json :=
  match value with
  | some json => if json.isObject then pure json else throw (invalidPayload field)
  | none => throw (invalidPayload field)

def transactionTypeOf : Option Json → Option TransactionType
  | some (.string "DEPOSIT") => some .deposit
  | some (.string "WITHDRAW") => some .withdraw
  | some (.string "TRANSFER") => some .transfer
  | _ => none

def outcomeOf : Option Json → Option Outcome
  | some (.string "SUCCESS") => some .success
  | some (.string "FAILURE") => some .failure
  | _ => none

def amountOf : Option Json → Option ℚ
  | some (.number (.finite value)) => some value
  | _ => none

/-- The value, or the error that names its field. -/
def orInvalid {α : Type} (value : Option α) (field : String) : Except Thrown α :=
  match value with
  | some value => pure value
  | none => throw (invalidPayload field)

def validateTransactionEventPayload (payload : Option Json) : Except Thrown ValidatedPayload := do
  let p ← requiredObject payload "not an object"
  let actorId ← requiredText (p.property "actorId") "actorId"
  let resourceId ← requiredText (p.property "resourceId") "resourceId"
  let traceId ← requiredText (p.property "traceId") "traceId"
  let outcome ← orInvalid (outcomeOf (p.property "outcome")) "outcome"
  let reasonCode ← optionalText (p.property "reasonCode") "reasonCode"
  let meta_ ← requiredObject (p.property "metadata") "metadata"
  let transactionType ← orInvalid (transactionTypeOf (meta_.property "transactionType"))
    "metadata.transactionType"
  let referenceId ← requiredText (meta_.property "referenceId") "metadata.referenceId"
  let amount ← orInvalid (amountOf (meta_.property "amount")) "metadata.amount"
  let _ ← optionalText (meta_.property "fromAccountId") "metadata account ids"
  let _ ← optionalText (meta_.property "toAccountId") "metadata account ids"
  let _ ← optionalText (meta_.property "fraudRule") "metadata.fraudRule"
  let clientIpMasked ← optionalText (meta_.property "clientIpMasked") "metadata.clientIpMasked"
  let userAgent ← optionalText (meta_.property "userAgent") "metadata.userAgent"
  pure { actorId, resourceId, traceId, outcome, reasonCode, transactionType, referenceId, amount
         clientIpMasked, userAgent, metadata := meta_ }

/-! ## Registration payloads -/

/-- A trimmed text, empty when the property is not a string. -/
def trimmedText (value : Option Json) : String := ((value.bind Json.string?).map trim).getD ""

def requiredTrimmed (value : Option Json) (field : String) : Except Thrown String :=
  if trimmedText value = "" then
    throw (.permanent s!"invalid user registered payload: {field}")
  else pure (trimmedText value)

structure UserRegisteredPayload where
  actorId : String
  resourceId : String
  traceId : String

def validateUserRegisteredPayload (payload : Option Json) : Except Thrown UserRegisteredPayload :=
  match payload with
  | some p =>
      if p.isObject then do
        let actorId ← requiredTrimmed (p.property "actorId") "actorId"
        let resourceId ← requiredTrimmed (p.property "resourceId") "resourceId"
        let traceId ← requiredTrimmed (p.property "traceId") "traceId"
        pure { actorId, resourceId, traceId }
      else throw (.permanent "invalid user registered payload: not an object")
  | none => throw (.permanent "invalid user registered payload: not an object")

end BankingBackend.Messaging
