import BankingBackend.Common.Service
import BankingBackend.Transactions.Dto

/-! # `AccountsService` -/

namespace BankingBackend.Accounts

open Foundation Postgres Common Transactions

structure CreateAccountRequestDto where
  currency : Currency

structure AccountResponseDto where
  id : Uuid
  balance : Money
  currency : Currency
  status : AccountStatus
  createdAt : ℕ
  deriving DecidableEq

/-- `accountMapper.toResponseDto`. -/
def toResponseDto (account : Account) : AccountResponseDto where
  id := account.id
  balance := account.balance
  currency := account.currency
  status := account.status
  createdAt := account.createdAt

/-! ## Reading -/

def getAccounts (userId : Uuid) : Service (List AccountResponseDto) := do
  let accounts ← query (.accountFindMany { customerId := some userId })
  pure (accounts.map toResponseDto)

def findOwned (userId : Uuid) (id : String) : Service (Option Account) :=
  query (.accountFindFirst (some id) { customerId := some userId })

def getAccountById (userId : Uuid) (id : String) : Service AccountResponseDto := do
  match ← findOwned userId id with
  | some account => pure (toResponseDto account)
  | none => throw (.http (.notFound "Account not found"))

/-! ## Creating -/

def Currency.text : Currency → String
  | .TRY => "TRY"
  | .USD => "USD"
  | .EUR => "EUR"

def accountExistsMessage (currency : Currency) : String :=
  "You already have an account with " ++ Currency.text currency

def recordAudit (context : RequestContext) (userId : Uuid) (action : AuditAction)
    (entityId : String) : Service Unit :=
  query (.auditLogCreate
    { action
      customerId := userId
      entityType := "ACCOUNT"
      entityId
      ipAddress := context.clientIpMasked
      userAgent := context.userAgent })

def createAccount (context : RequestContext) (userId : Uuid) (dto : CreateAccountRequestDto) :
    Service AccountResponseDto := do
  match ← query (.accountFindFirst none
      { customerId := some userId
        currency := some dto.currency
        status := some (.differs .closed) }) with
  | some _ => throw (.http (.conflict (accountExistsMessage dto.currency)))
  | none =>
      let account ← tryCatch (query (.accountCreate userId dto.currency)) fun err =>
        if err.code = some "P2002" then
          throw (.http (.conflict (accountExistsMessage dto.currency)))
        else throw err
      recordAudit context userId .accountCreate account.id.toText
      pure (toResponseDto account)

/-! ## Changing the status -/

/-- What the three status changes do not share: which rows they change, and the
message for a row they did not change. -/
structure StatusChange where
  filter : AccountFilter
  status : AccountStatus
  action : AuditAction
  failureMessage : Account → String

def freeze : StatusChange where
  filter := { status := some (.equals .active) }
  status := .frozen
  action := .accountFreeze
  failureMessage account :=
    if account.status = .closed then "Account is closed"
    else if account.status = .frozen then "Account is already frozen"
    else "Account state changed, try again"

def unfreeze : StatusChange where
  filter := { status := some (.equals .frozen) }
  status := .active
  action := .accountUnfreeze
  failureMessage account :=
    if account.status = .closed then "Account is closed"
    else if account.status = .active then "Account is already active"
    else "Account state changed, try again"

def close : StatusChange where
  filter := { status := some (.oneOf [.active, .frozen]), balance := some (.equals 0) }
  status := .closed
  action := .accountClose
  failureMessage account :=
    if account.status = .closed then "Account is already closed"
    else if account.balance.toRat ≠ 0 then "Account balance must be zero to close account"
    else "Account state changed, try again"

def changeStatus (change : StatusChange) (context : RequestContext) (userId : Uuid)
    (id : String) : Service AccountResponseDto := do
  let count ← query (.accountUpdateMany id { change.filter with customerId := some userId }
    (.setStatus change.status))
  if count ≠ 1 then do
    match ← findOwned userId id with
    | none => throw (.http (.notFound "Account not found"))
    | some account => throw (.http (.badRequest (change.failureMessage account)))
  else do
    recordAudit context userId change.action id
    match ← findOwned userId id with
    | none => throw (.http (.notFound "Account not found"))
    | some account => pure (toResponseDto account)

def freezeAccount := changeStatus freeze

def unfreezeAccount := changeStatus unfreeze

def closeAccount := changeStatus close

end BankingBackend.Accounts
