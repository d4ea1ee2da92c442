import BankingBackend.Common.Service

/-! # Fraud rules

The rules of `FraudModule` in their order, and the evaluation and release of
`FraudService`.
-/

namespace BankingBackend.Fraud

open Foundation Postgres Redis Common

/-- `FRAUD_TRANSFER_MAX_AMOUNT` and the other configured limits. -/
structure FraudConfig where
  transferMaxAmount : ℚ := 100000
  transfersPerMinuteLimit : ℚ := 5
  dailyTransferLimit : ℚ := 250000
  withdrawMaxAmount : ℚ := 50000
  dailyWithdrawLimit : ℚ := 100000

structure TransferFraudCheckInput where
  userId : Uuid
  referenceId : String
  fromAccountId : String
  toAccountId : String
  amount : ℚ

structure WithdrawFraudCheckInput where
  userId : Uuid
  referenceId : String
  fromAccountId : String
  amount : ℚ

structure FraudDecisionResult where
  decision : FraudDecision
  reason : Option String

/-- A rule that does not reject answers nothing. -/
abbrev RuleResult := Option FraudDecisionResult

def reject (name : String) : RuleResult := some ⟨.reject, some name⟩

/-! ## Messages -/

def getFraudRejectionMessage (transactionType : TransactionType)
    (fraudReason : Option String) : String :=
  match fraudReason with
  | some "SAME_ACCOUNT_TRANSFER" => "You cannot transfer to the same account."
  | some "TRANSFER_AMOUNT_EXCEEDED" => "The transfer amount exceeds the allowed limit."
  | some "TOO_MANY_TRANSFERS_IN_MINUTE" =>
      "Too many transfer attempts in a short time. Please try again later."
  | some "DAILY_TRANSFER_LIMIT_EXCEEDED" => "Your daily transfer limit has been exceeded."
  | some "WITHDRAW_AMOUNT_EXCEEDED" => "The withdrawal amount exceeds the allowed limit."
  | some "DAILY_WITHDRAW_LIMIT_EXCEEDED" => "Your daily withdrawal limit has been exceeded."
  | _ =>
      if transactionType = .withdraw then "Your withdrawal was rejected by our fraud checks."
      else "Your transaction was rejected by our fraud checks."

/-! ## Clock -/

def millisecondsPerMinute : ℕ := 60000

def millisecondsPerDay : ℕ := 86400000

/-- The day bucket of `getUtcDayMeta`, as a day number. -/
def dayBucketOf (now : ℕ) : ℕ := now / millisecondsPerDay

/-- The bucket of `getUtcMinuteMeta`, as a minute number. -/
def minuteBucketOf (now : ℕ) : ℕ := now / millisecondsPerMinute

/-! ## Daily limits -/

/-- What the two daily rules do not share. -/
structure DailyLimitRule where
  name : String
  type : TransactionType
  dailyLimit : ℚ

namespace DailyLimitRule

variable (rule : DailyLimitRule) (userId : Uuid) (referenceId : String) (amount : ℚ)

def evaluateFromDb : Service RuleResult := do
  let now ← request .now
  let startOfDayUtc := dayBucketOf now * millisecondsPerDay
  let usedToday ← query (.transactionSum
    { actorCustomerId := userId
      type := rule.type
      status := .completed
      createdFrom := startOfDayUtc
      createdBefore := startOfDayUtc + millisecondsPerDay })
  let projectedTotal := usedToday.getD 0 + amount
  pure (if projectedTotal > rule.dailyLimit then reject rule.name else none)

def evaluate : Service RuleResult := do
  let now ← request .now
  let scope : DailyScope := ⟨rule.type, userId, dayBucketOf now⟩
  match ← request (.evalReserve scope referenceId amount rule.dailyLimit) with
  | some allowed => pure (if allowed then none else reject rule.name)
  | none =>
      -- Redis is unavailable: the limit is checked against the committed rows.
      tryCatch (rule.evaluateFromDb userId amount) fun _ => pure (reject rule.name)

/-- A failing release is skipped. -/
def releaseReservation : Service Unit := do
  let now ← request .now
  let scope : DailyScope := ⟨rule.type, userId, dayBucketOf now⟩
  let _ ← request (.evalRelease scope referenceId)
  pure ()

end DailyLimitRule

def dailyTransferLimitExceededRule (config : FraudConfig) : DailyLimitRule where
  name := "DAILY_TRANSFER_LIMIT_EXCEEDED"
  type := .transfer
  dailyLimit := config.dailyTransferLimit

def dailyWithdrawLimitExceededRule (config : FraudConfig) : DailyLimitRule where
  name := "DAILY_WITHDRAW_LIMIT_EXCEEDED"
  type := .withdraw
  dailyLimit := config.dailyWithdrawLimit

/-! ## The other rules -/

def sameAccountTransferRule (input : TransferFraudCheckInput) : Service RuleResult :=
  pure (if input.fromAccountId = input.toAccountId then reject "SAME_ACCOUNT_TRANSFER"
    else none)

def transferAmountExceededRule (threshold : ℚ) (input : TransferFraudCheckInput) :
    Service RuleResult :=
  pure (if input.amount > threshold then reject "TRANSFER_AMOUNT_EXCEEDED" else none)

def tooManyTransfersInMinuteRule (limitPerMinute : ℚ) (input : TransferFraudCheckInput) :
    Service RuleResult := do
  if ← request .isReady then
    let now ← request .now
    match ← request (.evalIncrementMinute ⟨input.userId, minuteBucketOf now⟩) with
    | some count =>
        pure (if (count : ℚ) > limitPerMinute then reject "TOO_MANY_TRANSFERS_IN_MINUTE"
          else none)
    | none => pure none
  else pure none

def withdrawAmountExceededRule (threshold : ℚ) (input : WithdrawFraudCheckInput) :
    Service RuleResult :=
  pure (if input.amount > threshold then reject "WITHDRAW_AMOUNT_EXCEEDED" else none)

/-! ## Fraud service -/

def transferRules (config : FraudConfig) :
    List (TransferFraudCheckInput → Service RuleResult) :=
  [sameAccountTransferRule,
    transferAmountExceededRule config.transferMaxAmount,
    tooManyTransfersInMinuteRule config.transfersPerMinuteLimit,
    fun input => (dailyTransferLimitExceededRule config).evaluate input.userId
      input.referenceId input.amount]

def withdrawRules (config : FraudConfig) :
    List (WithdrawFraudCheckInput → Service RuleResult) :=
  [withdrawAmountExceededRule config.withdrawMaxAmount,
    fun input => (dailyWithdrawLimitExceededRule config).evaluate input.userId
      input.referenceId input.amount]

def evaluateRules {Input : Type} (input : Input) :
    List (Input → Service RuleResult) → Service FraudDecisionResult
  | [] => pure ⟨.approve, none⟩
  | rule :: rules => do
      match ← rule input with
      | some result =>
          if result.decision = .reject then pure result
          else evaluateRules input rules
      | none => evaluateRules input rules

def evaluateTransfer (config : FraudConfig) (input : TransferFraudCheckInput) :
    Service FraudDecisionResult :=
  evaluateRules input (transferRules config)

def evaluateWithdraw (config : FraudConfig) (input : WithdrawFraudCheckInput) :
    Service FraudDecisionResult :=
  evaluateRules input (withdrawRules config)

/-- Of the transfer rules only the daily limit has a reservation to release. -/
def releaseTransferDailyReservation (config : FraudConfig)
    (input : TransferFraudCheckInput) : Service Unit :=
  (dailyTransferLimitExceededRule config).releaseReservation input.userId input.referenceId

def releaseWithdrawDailyReservation (config : FraudConfig)
    (input : WithdrawFraudCheckInput) : Service Unit :=
  (dailyWithdrawLimitExceededRule config).releaseReservation input.userId input.referenceId

end BankingBackend.Fraud
