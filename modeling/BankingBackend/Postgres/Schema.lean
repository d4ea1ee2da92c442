import BankingBackend.Foundation.Rounding
import BankingBackend.Postgres.Uuid

/-! # Tables

The columns the services read or write. A `DECIMAL(18,2)` value is held in cents
and carries its bound.
-/

namespace BankingBackend.Postgres

open Foundation

/-! ## Enumerations -/

inductive Currency
  | TRY
  | USD
  | EUR
  deriving DecidableEq, Repr

inductive AccountStatus
  | active
  | frozen
  | closed
  deriving DecidableEq, Repr

inductive TransactionType
  | deposit
  | withdraw
  | transfer
  deriving DecidableEq, Repr

inductive TransactionStatus
  | pending
  | completed
  | failed
  | rejected
  deriving DecidableEq, Repr

inductive FraudDecision
  | approve
  | reject
  deriving DecidableEq, Repr

inductive EventType
  | transactionCompleted
  | transactionFailed
  | userRegistered
  deriving DecidableEq, Repr

inductive EventStatus
  | pending
  | publishing
  | processed
  | failed
  deriving DecidableEq, Repr

inductive AuditAction
  | accountCreate
  | accountFreeze
  | accountUnfreeze
  | accountClose
  deriving DecidableEq, Repr

/-! ## Decimal columns -/

/-- A value of a `DECIMAL(18,2)` column. -/
structure Money where
  cents : ℤ
  fits : |cents| < 10 ^ 18
  deriving DecidableEq

def WholeCents (amount : ℚ) : Prop := ∃ cents : ℤ, amount * 100 = cents

namespace Money

@[ext] theorem ext {left right : Money} (equal : left.cents = right.cents) : left = right := by
  cases left
  cases right
  cases equal
  rfl

def zero : Money := ⟨0, by norm_num⟩

instance : Inhabited Money := ⟨zero⟩

@[simp] theorem zero_cents : zero.cents = 0 := rfl

/-- The value in currency units. -/
def toRat (money : Money) : ℚ := money.cents / 100

/-- Assignment to the column: rounded half away from zero, or an overflow. -/
def assign? (value : ℚ) : Option Money :=
  if fits : |roundHalfAway (value * 100)| < 10 ^ 18 then
    some ⟨roundHalfAway (value * 100), fits⟩
  else none

theorem assign?_cents {value : ℚ} {money : Money} (assigned : assign? value = some money) :
    money.cents = roundHalfAway (value * 100) := by
  unfold assign? at assigned
  split at assigned
  · cases assigned
    rfl
  · cases assigned

/-- What an increment by `amount` adds to a nonnegative balance. -/
def creditCents (amount : ℚ) : ℤ := roundHalfAway (amount * 100)

/-- What a decrement by `amount` takes from a balance that covers it. -/
def debitCents (amount : ℚ) : ℤ := roundHalfDown (amount * 100)

theorem creditCents_nonneg {amount : ℚ} (nonneg : 0 ≤ amount) : 0 ≤ creditCents amount :=
  roundHalfAway_nonneg (by positivity)

theorem debitCents_nonneg {amount : ℚ} (nonneg : 0 ≤ amount) : 0 ≤ debitCents amount :=
  roundHalfDown_nonneg (by positivity)

theorem increment_cents {balance following : Money} {amount : ℚ}
    (balanceNonneg : 0 ≤ balance.cents) (nonneg : 0 ≤ amount)
    (assigned : assign? (balance.toRat + amount) = some following) :
    following.cents = balance.cents + creditCents amount := by
  rw [assign?_cents assigned, creditCents, ← roundHalfAway_add balanceNonneg (by positivity)]
  congr 1
  unfold toRat
  ring

theorem decrement_cents {balance following : Money} {amount : ℚ}
    (covered : amount ≤ balance.toRat)
    (assigned : assign? (balance.toRat - amount) = some following) :
    following.cents = balance.cents - debitCents amount := by
  have coveredCents : amount * 100 ≤ (balance.cents : ℚ) := by
    unfold toRat at covered
    linarith
  rw [assign?_cents assigned, debitCents, ← roundHalfAway_sub coveredCents]
  congr 1
  unfold toRat
  ring

theorem debitCents_le {balance : Money} {amount : ℚ} (covered : amount ≤ balance.toRat) :
    debitCents amount ≤ balance.cents :=
  roundHalfDown_le (by unfold toRat at covered; linarith)

end Money

/-! ## Rows -/

structure Account where
  id : Uuid
  customerId : Uuid
  balance : Money
  currency : Currency
  status : AccountStatus
  createdAt : ℕ
  deriving DecidableEq

structure Transaction where
  id : Uuid
  type : TransactionType
  actorCustomerId : Uuid
  fromAccountId : Option Uuid
  toAccountId : Option Uuid
  amount : Money
  status : TransactionStatus
  fraudDecision : Option FraudDecision
  fraudReason : Option String
  referenceId : String
  createdAt : ℕ
  deriving DecidableEq

/-- The columns of the unique index `actor_customer_id, type, reference_id`. -/
structure TransactionKey where
  actorCustomerId : Uuid
  type : TransactionType
  referenceId : String
  deriving DecidableEq

def Transaction.key (transaction : Transaction) : TransactionKey where
  actorCustomerId := transaction.actorCustomerId
  type := transaction.type
  referenceId := transaction.referenceId

inductive Outcome
  | success
  | failure
  deriving DecidableEq, Repr

/-- The account identifiers and the amount are those of the request, not of the
stored row. -/
structure TransactionEventMetadata where
  transactionType : TransactionType
  referenceId : String
  amount : ℚ
  fromAccountId : Option String
  toAccountId : Option String
  fraudRule : Option String
  clientIpMasked : Option String
  userAgent : Option String
  deriving DecidableEq

structure TransactionEventPayload where
  actorId : Uuid
  resourceId : Uuid
  traceId : String
  outcome : Outcome
  reasonCode : Option String
  metadata : TransactionEventMetadata
  deriving DecidableEq

structure Event where
  id : Uuid
  type : EventType
  payload : TransactionEventPayload
  status : EventStatus
  retryCount : ℕ
  createdAt : ℕ
  deriving DecidableEq

structure AuditLog where
  id : Uuid
  action : AuditAction
  customerId : Uuid
  entityType : String
  entityId : Uuid
  ipAddress : Option String
  userAgent : Option String
  timestamp : ℕ
  deriving DecidableEq

end BankingBackend.Postgres
