import BankingBackend.Postgres.Schema

/-! # Statements

The database calls the services issue and the type of each one's result.
-/

namespace BankingBackend.Postgres

/-- An error of the database client: the `code` and `message` of the thrown
object. -/
structure DatabaseError where
  code : Option String
  message : String
  deriving DecidableEq

namespace DatabaseError

def uniqueViolation : DatabaseError := ⟨some "P2002", "Unique constraint failed"⟩
def foreignKeyViolation : DatabaseError := ⟨some "P2003", "Foreign key constraint violated"⟩
def recordNotFound : DatabaseError := ⟨some "P2025", "No record was found for an update"⟩
def valueOutOfRange : DatabaseError := ⟨some "P2020", "Value out of range for the type"⟩
def invalidIdentifier : DatabaseError := ⟨some "P2007", "Invalid input value"⟩

end DatabaseError

inductive StatusFilter
  | equals (status : AccountStatus)
  | differs (status : AccountStatus)
  | oneOf (statuses : List AccountStatus)

inductive BalanceFilter
  | gte (amount : ℚ)
  | equals (amount : ℚ)

/-- The conditions of a `where` clause on accounts besides the identifier. -/
structure AccountFilter where
  customerId : Option Uuid := none
  currency : Option Currency := none
  status : Option StatusFilter := none
  balance : Option BalanceFilter := none

def StatusFilter.admits (status : AccountStatus) : StatusFilter → Bool
  | .equals wanted => status == wanted
  | .differs unwanted => status != unwanted
  | .oneOf statuses => statuses.contains status

def BalanceFilter.admits (balance : Money) : BalanceFilter → Bool
  | .gte amount => amount ≤ balance.toRat
  | .equals amount => balance.toRat == amount

def AccountFilter.admits (filter : AccountFilter) (account : Account) : Bool :=
  filter.customerId.all (· == account.customerId) &&
    filter.currency.all (· == account.currency) &&
    filter.status.all (·.admits account.status) &&
    filter.balance.all (·.admits account.balance)

inductive AccountUpdate
  | setStatus (status : AccountStatus)
  | increment (amount : ℚ)
  | decrement (amount : ℚ)

/-- The row after the update, unless the balance overflows its column. -/
def AccountUpdate.apply (account : Account) : AccountUpdate → Option Account
  | .setStatus status => some { account with status }
  | .increment amount =>
      (Money.assign? (account.balance.toRat + amount)).map
        fun balance => { account with balance }
  | .decrement amount =>
      (Money.assign? (account.balance.toRat - amount)).map
        fun balance => { account with balance }

structure TransactionData where
  type : TransactionType
  actorCustomerId : Uuid
  fromAccountId : Option String
  toAccountId : Option String
  amount : ℚ
  referenceId : String
  status : TransactionStatus
  fraudDecision : Option FraudDecision
  fraudReason : Option String

/-- The value of an optional identifier column, or an invalid text. -/
def parseOptional : Option String → Option (Option Uuid)
  | none => some none
  | some text => (Uuid.parse? text).map some

/-- The row to insert, unless a value does not fit its column. -/
def TransactionData.row (data : TransactionData) (id : Uuid) (now : ℕ) :
    Except DatabaseError Transaction :=
  match parseOptional data.fromAccountId, parseOptional data.toAccountId,
    Money.assign? data.amount with
  | some fromAccountId, some toAccountId, some amount => .ok
      { id
        type := data.type
        actorCustomerId := data.actorCustomerId
        fromAccountId
        toAccountId
        amount
        status := data.status
        fraudDecision := data.fraudDecision
        fraudReason := data.fraudReason
        referenceId := data.referenceId
        createdAt := now }
  | some _, some _, none => .error .valueOutOfRange
  | _, _, _ => .error .invalidIdentifier

structure EventData where
  type : EventType
  payload : TransactionEventPayload
  status : EventStatus

structure AuditLogData where
  action : AuditAction
  customerId : Uuid
  entityType : String
  entityId : String
  ipAddress : Option String
  userAgent : Option String

/-- The `where` clause of the sum of a customer's transactions of one day. -/
structure AmountFilter where
  actorCustomerId : Uuid
  type : TransactionType
  status : TransactionStatus
  createdFrom : ℕ
  createdBefore : ℕ

def AmountFilter.admits (filter : AmountFilter) (transaction : Transaction) : Bool :=
  transaction.actorCustomerId == filter.actorCustomerId &&
    transaction.type == filter.type && transaction.status == filter.status &&
    decide (filter.createdFrom ≤ transaction.createdAt) &&
    decide (transaction.createdAt < filter.createdBefore)

inductive Statement
  | begin
  | commit
  | rollback
  | transactionFindFirst (key : TransactionKey)
  | transactionCreate (data : TransactionData)
  | transactionUpdate (id : Uuid) (status : TransactionStatus)
  | transactionSum (filter : AmountFilter)
  | accountFindUnique (id : String)
  | accountFindFirst (id : Option String) (filter : AccountFilter)
  | accountFindMany (filter : AccountFilter)
  | accountCreate (customerId : Uuid) (currency : Currency)
  | accountUpdate (id : String) (data : AccountUpdate)
  | accountUpdateMany (id : String) (filter : AccountFilter) (data : AccountUpdate)
  | eventCreate (data : EventData)
  | auditLogCreate (data : AuditLogData)

/-- `accountUpdateMany` returns the number of rows it changed. -/
@[reducible] def Statement.Result : Statement → Type
  | .begin | .commit | .rollback => Unit
  | .transactionFindFirst _ => Option Transaction
  | .transactionCreate _ => Transaction
  | .transactionUpdate _ _ => Transaction
  | .transactionSum _ => Option ℚ
  | .accountFindUnique _ => Option Account
  | .accountFindFirst _ _ => Option Account
  | .accountFindMany _ => List Account
  | .accountCreate _ _ => Account
  | .accountUpdate _ _ => Unit
  | .accountUpdateMany _ _ _ => ℕ
  | .eventCreate _ => Unit
  | .auditLogCreate _ => Unit

end BankingBackend.Postgres
