import BankingBackend.Messaging.Dispatch

/-! # Transaction payloads as JSON

What the consumers parse of a payload that the event writer wrote, and when they
accept it.
-/

namespace BankingBackend.Messaging

open Foundation Postgres

/-! ## Encoding -/

def outcomeText : Outcome → String
  | .success => "SUCCESS"
  | .failure => "FAILURE"

/-- A property that is `undefined` is left out. -/
def optionalField (name : String) (value : Option String) : List (String × Json) :=
  value.toList.map fun text => (name, .string text)

def nullable (value : Option String) : Json := value.elim .null .string

def encodeMetadata (metadata : TransactionEventMetadata) : Json :=
  .object ([("transactionType", .string (typeText metadata.transactionType)),
      ("referenceId", .string metadata.referenceId),
      ("amount", .number (.finite metadata.amount)),
      ("fromAccountId", nullable metadata.fromAccountId),
      ("toAccountId", nullable metadata.toAccountId)] ++
    optionalField "fraudRule" metadata.fraudRule ++
    optionalField "clientIpMasked" metadata.clientIpMasked ++
    optionalField "userAgent" metadata.userAgent)

def encodePayload (payload : TransactionEventPayload) : Json :=
  .object ([("actorId", .string payload.actorId.toText),
      ("resourceId", .string payload.resourceId.toText),
      ("traceId", .string payload.traceId),
      ("outcome", .string (outcomeText payload.outcome))] ++
    optionalField "reasonCode" payload.reasonCode ++
    [("metadata", encodeMetadata payload.metadata)])

/-! ## Decoding -/

section Checks

variable {α β : Type} {text shown field : String} {value found : Option String}

theorem bind_eq_ok {result : Except Thrown α} {next : α → Except Thrown β} {final : β} :
    (result >>= next) = .ok final ↔ ∃ value, result = .ok value ∧ next value = .ok final := by
  cases result with
  | error error => simp [bind, Except.bind]
  | ok value => simp [bind, Except.bind]

@[simp] theorem requiredText_eq_ok :
    requiredText (some (.string text)) field = .ok shown ↔ Filled text ∧ text = shown := by
  unfold requiredText
  by_cases filled : Filled text
  · simp [filled, show trim text ≠ "" from filled, pure, Except.pure]
  · simp [filled, show trim text = "" from not_not.mp filled, throw, throwThe, MonadExceptOf.throw]

@[simp] theorem optionalText_eq_ok :
    optionalText (value.map .string) field = .ok found ↔
      (∀ text ∈ value, Filled text) ∧ value = found := by
  cases value with
  | none => simp [optionalText, pure, Except.pure]
  | some text =>
      unfold optionalText
      by_cases filled : Filled text
      · simp [filled, show trim text ≠ "" from filled, pure, Except.pure]
      · simp [filled, show trim text = "" from not_not.mp filled, throw, throwThe,
          MonadExceptOf.throw]

@[simp] theorem optionalText_nullable :
    optionalText (some (nullable value)) field = optionalText (value.map .string) field := by
  cases value with
  | none => rfl
  | some text => rfl

@[simp] theorem transactionTypeOf_typeText (type : TransactionType) :
    transactionTypeOf (some (.string (typeText type))) = some type := by
  cases type <;> rfl

@[simp] theorem outcomeOf_outcomeText (outcome : Outcome) :
    outcomeOf (some (.string (outcomeText outcome))) = some outcome := by
  cases outcome <;> rfl

end Checks

/-! ### Properties of encoded objects -/

theorem property_nil (name : String) : (Json.object []).property name = none := rfl

theorem property_cons (field name : String) (value : Json) (rest : List (String × Json)) :
    (Json.object ((field, value) :: rest)).property name =
      if field = name then some value else (Json.object rest).property name := by
  by_cases same : field = name
  · simp [Json.property, same]
  · simp [Json.property, same]

theorem property_append (first rest : List (String × Json)) (name : String) :
    (Json.object (first ++ rest)).property name =
      ((Json.object first).property name).or ((Json.object rest).property name) := by
  simp only [Json.property, List.find?_append]
  cases first.find? fun field => field.1 == name <;> rfl

theorem property_optionalField (field name : String) (value : Option String) :
    (Json.object (optionalField field value)).property name =
      if field = name then value.map .string else none := by
  cases value with
  | none => simp [Json.property, optionalField]
  | some text =>
      by_cases same : field = name
      · simp [Json.property, optionalField, same]
      · simp [Json.property, optionalField, same]

/-- What the consumers make of an accepted payload. -/
def decoded (payload : TransactionEventPayload) : ValidatedPayload where
  actorId := payload.actorId.toText
  resourceId := payload.resourceId.toText
  traceId := payload.traceId
  outcome := payload.outcome
  reasonCode := payload.reasonCode
  transactionType := payload.metadata.transactionType
  referenceId := payload.metadata.referenceId
  amount := payload.metadata.amount
  clientIpMasked := payload.metadata.clientIpMasked
  userAgent := payload.metadata.userAgent
  metadata := encodeMetadata payload.metadata

/-- Every text of the payload that the consumers check is filled. -/
structure Legible (payload : TransactionEventPayload) : Prop where
  traceId : Filled payload.traceId
  reasonCode : ∀ text ∈ payload.reasonCode, Filled text
  referenceId : Filled payload.metadata.referenceId
  fromAccountId : ∀ text ∈ payload.metadata.fromAccountId, Filled text
  toAccountId : ∀ text ∈ payload.metadata.toAccountId, Filled text
  fraudRule : ∀ text ∈ payload.metadata.fraudRule, Filled text
  clientIpMasked : ∀ text ∈ payload.metadata.clientIpMasked, Filled text
  userAgent : ∀ text ∈ payload.metadata.userAgent, Filled text

/-! ### Validation -/

theorem encodeMetadata_property (metadata : TransactionEventMetadata) (name : String) :
    (encodeMetadata metadata).property name =
      if "transactionType" = name then some (.string (typeText metadata.transactionType))
      else if "referenceId" = name then some (.string metadata.referenceId)
      else if "amount" = name then some (.number (.finite metadata.amount))
      else if "fromAccountId" = name then some (nullable metadata.fromAccountId)
      else if "toAccountId" = name then some (nullable metadata.toAccountId)
      else ((if "fraudRule" = name then metadata.fraudRule.map .string else none).or
        (if "clientIpMasked" = name then metadata.clientIpMasked.map .string else none)).or
          (if "userAgent" = name then metadata.userAgent.map .string else none) := by
  simp only [encodeMetadata, List.cons_append, List.nil_append, property_append,
    property_optionalField, property_cons]

theorem encodePayload_property (payload : TransactionEventPayload) (name : String) :
    (encodePayload payload).property name =
      if "actorId" = name then some (.string payload.actorId.toText)
      else if "resourceId" = name then some (.string payload.resourceId.toText)
      else if "traceId" = name then some (.string payload.traceId)
      else if "outcome" = name then some (.string (outcomeText payload.outcome))
      else (if "reasonCode" = name then payload.reasonCode.map .string else none).or
        (if "metadata" = name then some (encodeMetadata payload.metadata) else none) := by
  simp only [encodePayload, List.cons_append, List.nil_append, property_append,
    property_optionalField, property_cons, property_nil]

theorem filled_toText (id : Uuid) : Filled id.toText := by
  refine filled_iff.mpr ⟨'-', ?_, by decide⟩
  simp [Uuid.toText]

/-- A payload is accepted just when its texts are filled, and is read as it was written. -/
theorem validate_encodePayload (payload : TransactionEventPayload) (validated : ValidatedPayload) :
    validateTransactionEventPayload (some (encodePayload payload)) = .ok validated ↔
      Legible payload ∧ decoded payload = validated := by
  have payloadObject : (encodePayload payload).isObject = true := rfl
  have metadataObject : (encodeMetadata payload.metadata).isObject = true := rfl
  have objects {json : Json} (object : json.isObject = true) (field : String) (found : Json) :
      requiredObject (some json) field = .ok found ↔ json = found := by
    simp [requiredObject, object, pure, Except.pure]
  have values {α : Type} (value found : α) (field : String) :
      orInvalid (some value) field = .ok found ↔ value = found := by
    simp [orInvalid, pure, Except.pure]
  simp only [validateTransactionEventPayload, bind_eq_ok, objects payloadObject, exists_eq_left',
    encodePayload_property, String.reduceEq, if_true, if_false, Option.none_or, Option.or_none,
    requiredText_eq_ok, optionalText_eq_ok, outcomeOf_outcomeText, values, objects metadataObject,
    encodeMetadata_property, transactionTypeOf_typeText, amountOf, optionalText_nullable, and_assoc,
    exists_and_left, exists_and_right, pure, Except.pure, Except.ok.injEq]
  constructor
  · rintro ⟨-, -, traceId, reasonCode, referenceId, fromAccountId, -, toAccountId, -, fraudRule, -,
      clientIpMasked, userAgent, read⟩
    exact ⟨⟨traceId, reasonCode, referenceId, fromAccountId, toAccountId, fraudRule,
      clientIpMasked, userAgent⟩, read⟩
  · rintro ⟨legible, read⟩
    exact ⟨filled_toText _, filled_toText _, legible.traceId, legible.reasonCode,
      legible.referenceId, legible.fromAccountId, ⟨_, rfl⟩, legible.toAccountId, ⟨_, rfl⟩,
      legible.fraudRule, ⟨_, rfl⟩, legible.clientIpMasked, legible.userAgent, read⟩

end BankingBackend.Messaging
