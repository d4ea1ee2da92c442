import BankingBackend.Fraud.Rules
import BankingBackend.Transactions.Dto

/-! # Collaborators of the transactions service

The idempotency checker, the account validator, the transaction repository and
the event writer.
-/

namespace BankingBackend.Transactions

open Foundation Postgres Common Fraud

/-! ## `TransactionIdempotencyChecker` -/

def findExisting (userId : Uuid) (type : TransactionType) (referenceId : String) :
    Service (Option Transaction) :=
  query (.transactionFindFirst { actorCustomerId := userId, type, referenceId })

def isFraudRejection (existing : Transaction) : Bool :=
  existing.status == .rejected && existing.fraudDecision == some .reject

def resolveExistingOrThrow (existing : Option Transaction) (type : TransactionType) :
    Service (Option TransactionResponseDto) :=
  match existing with
  | none => pure none
  | some existing =>
      if existing.status = .completed then pure (some (toResponseDto existing))
      else if isFraudRejection existing then
        throw (.http (.badRequest (getFraudRejectionMessage type existing.fraudReason)))
      else pure none

def resolveP2002Fallback (err : ServiceError) (userId : Uuid) (referenceId : String)
    (type : TransactionType) : Service (Option TransactionResponseDto) :=
  if err.code ≠ some "P2002" then pure none
  else do
    match ← findExisting userId type referenceId with
    | none => pure none
    | some byRef =>
        if byRef.status = .completed then pure (some (toResponseDto byRef))
        else if isFraudRejection byRef then
          throw (.http (.badRequest (getFraudRejectionMessage type byRef.fraudReason)))
        else if byRef.status = .pending then
          throw (.http (.conflict "Transaction request is still in progress"))
        else throw (.http (.badRequest "Transaction request could not be processed"))

/-! ## `TransactionAccountValidator` -/

def getAccountOrThrow (accountId : String) : Service Account := do
  match ← query (.accountFindUnique accountId) with
  | some account => pure account
  | none => throw (.http (.notFound "Account not found"))

def ensureOwnedByUserOrThrow (accountCustomerId userId : Uuid) : Service Unit :=
  if accountCustomerId ≠ userId then throw (.http (.forbidden "Account not found"))
  else pure ()

def ensureActiveOrThrow (accountStatus : AccountStatus) (message : String) : Service Unit :=
  if accountStatus ≠ .active then throw (.http (.badRequest message))
  else pure ()

/-! ## `TransactionRepository` -/

/-- What both kinds of inserted row take from the request. -/
structure TransactionParams where
  type : TransactionType
  actorCustomerId : Uuid
  fromAccountId : Option String
  toAccountId : Option String
  amount : ℚ
  referenceId : String

def TransactionParams.data (params : TransactionParams) (status : TransactionStatus)
    (fraudDecision : Option FraudDecision) (fraudReason : Option String) :
    TransactionData where
  type := params.type
  actorCustomerId := params.actorCustomerId
  fromAccountId := params.fromAccountId
  toAccountId := params.toAccountId
  amount := params.amount
  referenceId := params.referenceId
  status := status
  fraudDecision := fraudDecision
  fraudReason := fraudReason

def createPendingTransaction (params : TransactionParams) : Service Transaction :=
  query (.transactionCreate (params.data .pending none none))

def createRejectedTransaction (params : TransactionParams) (fraudReason : Option String) :
    Service Transaction :=
  query (.transactionCreate (params.data .rejected (some .reject) fraudReason))

def markCompleted (transactionId : Uuid) : Service Transaction :=
  query (.transactionUpdate transactionId .completed)

def incrementBalance (accountId : String) (amount : ℚ) : Service Unit :=
  query (.accountUpdate accountId (.increment amount))

/-- The number of rows changed. -/
def decrementBalance (accountId : String) (amount : ℚ) : Service ℕ :=
  query (.accountUpdateMany accountId { balance := some (.gte amount) } (.decrement amount))

/-! ## `TransactionEventWriter` -/

def eventPayload (context : RequestContext) (params : TransactionParams) (resourceId : Uuid)
    (outcome : Outcome) (reasonCode fraudRule : Option String) : TransactionEventPayload where
  actorId := params.actorCustomerId
  resourceId := resourceId
  traceId := context.traceId.getD "missing-trace-id"
  outcome := outcome
  reasonCode := reasonCode
  metadata :=
    { transactionType := params.type
      referenceId := params.referenceId
      amount := params.amount
      fromAccountId := params.fromAccountId
      toAccountId := params.toAccountId
      fraudRule
      clientIpMasked := context.clientIpMasked
      userAgent := context.userAgent }

def createCompletedEvent (context : RequestContext) (params : TransactionParams)
    (resourceId : Uuid) : Service Unit :=
  query (.eventCreate
    { type := .transactionCompleted
      payload := eventPayload context params resourceId .success none none
      status := .pending })

def createFailedFraudEvent (context : RequestContext) (params : TransactionParams)
    (resourceId : Uuid) (fraudRule : Option String) : Service Unit :=
  query (.eventCreate
    { type := .transactionFailed
      payload := eventPayload context params resourceId .failure (some "FRAUD_REJECTED") fraudRule
      status := .pending })

end BankingBackend.Transactions
