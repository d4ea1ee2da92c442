import BankingBackend.Postgres.Schema

/-! # Requests and responses

A request carries what its validation has checked. Identifiers are the texts the
client sent.
-/

namespace BankingBackend.Transactions

open Postgres

structure RequestContext where
  clientIpMasked : Option String := none
  userAgent : Option String := none
  traceId : Option String := none

/-- `@Max(9999999999999999.99)`: the nearest number the runtime can hold. -/
def maximumDeposit : ℚ := 10000000000000000

structure CreateDepositRequestDto where
  amount : ℚ
  referenceId : String
  toAccountId : String
  amountMin : 1 / 100 ≤ amount
  amountMax : amount ≤ maximumDeposit
  referenceIdNotEmpty : referenceId ≠ ""
  toAccountIdIsUUID : isUUID toAccountId = true

structure CreateWithdrawRequestDto where
  amount : ℚ
  referenceId : String
  fromAccountId : String
  amountMin : 1 / 100 ≤ amount
  referenceIdNotEmpty : referenceId ≠ ""
  fromAccountIdIsUUID : isUUID fromAccountId = true

structure CreateTransferRequestDto where
  amount : ℚ
  referenceId : String
  toAccountId : String
  fromAccountId : String
  amountMin : 1 / 100 ≤ amount
  referenceIdNotEmpty : referenceId ≠ ""
  toAccountIdIsUUID : isUUID toAccountId = true
  fromAccountIdIsUUID : isUUID fromAccountId = true

/-! ## Validation of a request body -/

def CreateDepositRequestDto.validate (amount : ℚ) (referenceId toAccountId : String) :
    Option CreateDepositRequestDto :=
  if valid : 1 / 100 ≤ amount ∧ amount ≤ maximumDeposit ∧ referenceId ≠ "" ∧
      isUUID toAccountId = true then
    some ⟨amount, referenceId, toAccountId, valid.1, valid.2.1, valid.2.2.1, valid.2.2.2⟩
  else none

def CreateWithdrawRequestDto.validate (amount : ℚ) (referenceId fromAccountId : String) :
    Option CreateWithdrawRequestDto :=
  if valid : 1 / 100 ≤ amount ∧ referenceId ≠ "" ∧ isUUID fromAccountId = true then
    some ⟨amount, referenceId, fromAccountId, valid.1, valid.2.1, valid.2.2⟩
  else none

def CreateTransferRequestDto.validate (amount : ℚ)
    (referenceId toAccountId fromAccountId : String) : Option CreateTransferRequestDto :=
  if valid : 1 / 100 ≤ amount ∧ referenceId ≠ "" ∧ isUUID toAccountId = true ∧
      isUUID fromAccountId = true then
    some ⟨amount, referenceId, toAccountId, fromAccountId, valid.1, valid.2.1, valid.2.2.1,
      valid.2.2.2⟩
  else none

structure TransactionResponseDto where
  id : Uuid
  type : TransactionType
  fromAccountId : Option Uuid
  toAccountId : Option Uuid
  amount : Money
  status : TransactionStatus
  referenceId : String
  createdAt : ℕ
  deriving DecidableEq

/-- `transactionMapper.toResponseDto`. -/
def toResponseDto (tx : Transaction) : TransactionResponseDto where
  id := tx.id
  type := tx.type
  fromAccountId := tx.fromAccountId
  toAccountId := tx.toAccountId
  amount := tx.amount
  status := tx.status
  referenceId := tx.referenceId
  createdAt := tx.createdAt

end BankingBackend.Transactions
