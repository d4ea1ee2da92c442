import BankingBackend.Foundation.Text
import BankingBackend.Transactions.Collaborators

/-! # `TransactionsService` -/

namespace BankingBackend.Transactions

open Foundation Postgres Common Fraud

/-- Conflicts and deadlocks, by code or by the driver's message. -/
def isRetryableTransactionError (err : ServiceError) : Bool :=
  let message := err.message.toLower
  err.code == some "P2034" ||
    containsText message "deadlock".toList ||
    containsText message "40p01".toList ||
    containsText message "40001".toList

def transferRetryAttempts : ℕ := 3

/-- The committed outcome of a rejection is the exception it throws. -/
def recordRejection (context : RequestContext) (params : TransactionParams)
    (reason : Option String) : Service TransactionResponseDto := do
  transaction do
    let rejectedTransaction ← createRejectedTransaction params reason
    createFailedFraudEvent context params rejectedTransaction.id reason
  throw (.http (.badRequest (getFraudRejectionMessage params.type reason)))

/-- What every catch block ends with. -/
def fallbackOrThrow (err : ServiceError) (userId : Uuid) (referenceId : String)
    (type : TransactionType) : Service TransactionResponseDto := do
  match ← resolveP2002Fallback err userId referenceId type with
  | some fallback => pure fallback
  | none => throw err

/-! ## Deposit -/

def depositParams (userId : Uuid) (dto : CreateDepositRequestDto) : TransactionParams where
  type := .deposit
  actorCustomerId := userId
  fromAccountId := none
  toAccountId := some dto.toAccountId
  amount := dto.amount
  referenceId := dto.referenceId

def depositBody (context : RequestContext) (userId : Uuid) (dto : CreateDepositRequestDto) :
    Service TransactionResponseDto := do
  let account ← getAccountOrThrow dto.toAccountId
  ensureOwnedByUserOrThrow account.customerId userId
  ensureActiveOrThrow account.status "Account is not active"
  let created ← createPendingTransaction (depositParams userId dto)
  incrementBalance dto.toAccountId dto.amount
  let completedTransaction ← markCompleted created.id
  createCompletedEvent context (depositParams userId dto) completedTransaction.id
  pure (toResponseDto completedTransaction)

def createDeposit (context : RequestContext) (userId : Uuid) (dto : CreateDepositRequestDto) :
    Service TransactionResponseDto := do
  let existing ← findExisting userId .deposit dto.referenceId
  match ← resolveExistingOrThrow existing .deposit with
  | some idempotentResult => pure idempotentResult
  | none =>
      tryCatch (transaction (depositBody context userId dto)) fun err =>
        fallbackOrThrow err userId dto.referenceId .deposit

/-! ## Withdraw -/

def withdrawParams (userId : Uuid) (dto : CreateWithdrawRequestDto) : TransactionParams where
  type := .withdraw
  actorCustomerId := userId
  fromAccountId := some dto.fromAccountId
  toAccountId := none
  amount := dto.amount
  referenceId := dto.referenceId

def withdrawCheckInput (userId : Uuid) (dto : CreateWithdrawRequestDto) :
    WithdrawFraudCheckInput where
  userId := userId
  referenceId := dto.referenceId
  fromAccountId := dto.fromAccountId
  amount := dto.amount

def withdrawBody (context : RequestContext) (userId : Uuid) (dto : CreateWithdrawRequestDto) :
    Service TransactionResponseDto := do
  let account ← getAccountOrThrow dto.fromAccountId
  ensureOwnedByUserOrThrow account.customerId userId
  ensureActiveOrThrow account.status "Account is not active"
  let created ← createPendingTransaction (withdrawParams userId dto)
  let count ← decrementBalance dto.fromAccountId dto.amount
  if count ≠ 1 then throw (.http (.badRequest "Account balance not enough"))
  else do
    let completedTransaction ← markCompleted created.id
    createCompletedEvent context (withdrawParams userId dto) completedTransaction.id
    pure (toResponseDto completedTransaction)

def createWithdraw (config : FraudConfig) (context : RequestContext) (userId : Uuid)
    (dto : CreateWithdrawRequestDto) : Service TransactionResponseDto := do
  let existing ← findExisting userId .withdraw dto.referenceId
  match ← resolveExistingOrThrow existing .withdraw with
  | some idempotentResult => pure idempotentResult
  | none =>
      tryCatch
        (do
          let preFraudResult ← evaluateWithdraw config (withdrawCheckInput userId dto)
          if preFraudResult.decision = .reject then
            recordRejection context (withdrawParams userId dto) preFraudResult.reason
          else transaction (withdrawBody context userId dto))
        fun err => do
          if err.code ≠ some "P2002" then
            releaseWithdrawDailyReservation config (withdrawCheckInput userId dto)
          fallbackOrThrow err userId dto.referenceId .withdraw

/-! ## Transfer -/

def transferParams (userId : Uuid) (dto : CreateTransferRequestDto) : TransactionParams where
  type := .transfer
  actorCustomerId := userId
  fromAccountId := some dto.fromAccountId
  toAccountId := some dto.toAccountId
  amount := dto.amount
  referenceId := dto.referenceId

def transferCheckInput (userId : Uuid) (dto : CreateTransferRequestDto) :
    TransferFraudCheckInput where
  userId := userId
  referenceId := dto.referenceId
  fromAccountId := dto.fromAccountId
  toAccountId := dto.toAccountId
  amount := dto.amount

/-- One turn of the loop over the two accounts. -/
def moveMoney (dto : CreateTransferRequestDto) (accountId : String) : Service Unit := do
  if accountId = dto.fromAccountId then
    let count ← decrementBalance dto.fromAccountId dto.amount
    if count ≠ 1 then throw (.http (.badRequest "Insufficient balance"))
  else incrementBalance dto.toAccountId dto.amount

/-- The account texts in the order in which their rows are locked. -/
def lockOrder (dto : CreateTransferRequestDto) : String × String :=
  if dto.fromAccountId < dto.toAccountId then (dto.fromAccountId, dto.toAccountId)
  else (dto.toAccountId, dto.fromAccountId)

def transferBody (context : RequestContext) (userId : Uuid) (dto : CreateTransferRequestDto) :
    Service TransactionResponseDto := do
  let fromAccount ← getAccountOrThrow dto.fromAccountId
  let toAccount ← getAccountOrThrow dto.toAccountId
  ensureOwnedByUserOrThrow fromAccount.customerId userId
  ensureActiveOrThrow fromAccount.status "From account is not active"
  ensureActiveOrThrow toAccount.status "To account is not active"
  let created ← createPendingTransaction (transferParams userId dto)
  moveMoney dto (lockOrder dto).1
  moveMoney dto (lockOrder dto).2
  let completedTransaction ← markCompleted created.id
  createCompletedEvent context (transferParams userId dto) completedTransaction.id
  pure (toResponseDto completedTransaction)

/-- The retry loop, with the attempts that remain after the current one. -/
def transferAttempts (context : RequestContext) (userId : Uuid)
    (dto : CreateTransferRequestDto) : ℕ → Service TransactionResponseDto
  | 0 => transaction (transferBody context userId dto)
  | remaining + 1 =>
      tryCatch (transaction (transferBody context userId dto)) fun err =>
        if isRetryableTransactionError err then
          transferAttempts context userId dto remaining
        else throw err

def createTransfer (config : FraudConfig) (context : RequestContext) (userId : Uuid)
    (dto : CreateTransferRequestDto) : Service TransactionResponseDto := do
  let existing ← findExisting userId .transfer dto.referenceId
  match ← resolveExistingOrThrow existing .transfer with
  | some idempotentResult => pure idempotentResult
  | none =>
      tryCatch
        (do
          let preFraudResult ← evaluateTransfer config (transferCheckInput userId dto)
          if preFraudResult.decision = .reject then
            recordRejection context (transferParams userId dto) preFraudResult.reason
          else transferAttempts context userId dto (transferRetryAttempts - 1))
        fun err => do
          if err.code ≠ some "P2002" then
            releaseTransferDailyReservation config (transferCheckInput userId dto)
          fallbackOrThrow err userId dto.referenceId .transfer

end BankingBackend.Transactions
