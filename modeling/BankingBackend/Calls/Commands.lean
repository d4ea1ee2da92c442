import BankingBackend.Accounts.Service
import BankingBackend.Foundation.Restriction
import BankingBackend.Postgres.Frame
import BankingBackend.Transactions.Service

/-! # The commands of a call

The bodies of the transactions only issue statements inside them. What a call
does before its fraud check, in recording a rejection and after a failure
completes no row and touches no reservation.
-/

namespace BankingBackend

open Foundation Foundation.Program Postgres Common Fraud Transactions Accounts

def Common.Command.Inner : interface.Op → Prop
  | .query statement => statement.Inner
  | _ => False

def Common.Command.Quiet : interface.Op → Prop
  | .query statement => statement.Quiet
  | .evalReserve _ _ _ _ | .evalRelease _ _ => False
  | _ => True

/-- A command before or after the transactions of a call: it writes nothing to the
database. -/
def Common.Command.Asks : interface.Op → Prop
  | .query (.transactionFindFirst _) | .query (.transactionSum _) => True
  | .query _ => False
  | _ => True

/-- A statement of a transaction that moves money, but for the one that creates its event. -/
def Postgres.Statement.Money : Statement → Prop
  | .accountFindUnique _ | .transactionCreate _ | .transactionUpdate _ _
  | .accountUpdate _ (.increment _) | .accountUpdateMany _ _ (.decrement _) => True
  | _ => False

section Programs

variable {permits : interface.Op → Prop}

theorem issues_request {command : Command} (permitted : permits command) :
    Issues permits (request command) :=
  ⟨permitted, fun _ => trivial⟩

theorem issues_query {statement : Statement} (permitted : permits (.query statement)) :
    Issues permits (query statement) := by
  refine (issues_request permitted).bind fun answer => ?_
  cases answer with
  | ok value => exact issues_pure value
  | error error => exact issues_throw _

/-! ## Transaction bodies -/

theorem issues_ensureOwnedByUserOrThrow (accountCustomerId userId : Uuid) :
    Issues permits (ensureOwnedByUserOrThrow accountCustomerId userId) := by
  unfold ensureOwnedByUserOrThrow
  split
  · exact issues_throw _
  · exact issues_pure _

theorem issues_ensureActiveOrThrow (status : AccountStatus) (message : String) :
    Issues permits (ensureActiveOrThrow status message) := by
  unfold ensureActiveOrThrow
  split
  · exact issues_throw _
  · exact issues_pure _

theorem issues_getAccountOrThrow {text : String}
    (finds : permits (.query (.accountFindUnique text))) :
    Issues permits (getAccountOrThrow text) := by
  refine (issues_query finds).bind fun account => ?_
  cases account with
  | some account => exact issues_pure account
  | none => exact issues_throw _

theorem issues_moveMoney {dto : CreateTransferRequestDto} {accountId : String}
    (debits : ∀ text filter amount,
      permits (.query (.accountUpdateMany text filter (.decrement amount))))
    (credits : ∀ text amount, permits (.query (.accountUpdate text (.increment amount)))) :
    Issues permits (moveMoney dto accountId) := by
  unfold moveMoney
  split
  · refine (issues_query (debits _ _ _)).bind fun (count : ℕ) => ?_
    by_cases short : count ≠ 1
    · rw [if_pos short]
      exact issues_throw _
    · rw [if_neg short]
      exact issues_pure _
  · exact issues_query (credits _ _)

section Bodies

variable (money : ∀ statement : Statement, statement.Money → permits (.query statement))
include money

variable {context : RequestContext} {userId : Uuid}

theorem issues_completion {params : TransactionParams} {id : Uuid}
    (announced : ∀ resourceId, Issues permits (createCompletedEvent context params resourceId)) :
    Issues permits (do
      let completedTransaction ← markCompleted id
      createCompletedEvent context params completedTransaction.id
      pure (Transactions.toResponseDto completedTransaction)) :=
  (issues_query (money _ (by trivial))).bind fun _ => (announced _).bind fun _ => issues_pure _

theorem issues_depositBody {dto : CreateDepositRequestDto}
    (announced : ∀ resourceId, Issues permits
      (createCompletedEvent context (depositParams userId dto) resourceId)) :
    Issues permits (depositBody context userId dto) := by
  refine (issues_getAccountOrThrow (money _ (by trivial))).bind fun account => ?_
  refine (issues_ensureOwnedByUserOrThrow _ _).bind fun _ => ?_
  refine (issues_ensureActiveOrThrow _ _).bind fun _ => ?_
  refine (issues_query (money _ (by trivial))).bind fun created => ?_
  refine (issues_query (money _ (by trivial))).bind fun _ => ?_
  exact issues_completion money announced

theorem issues_withdrawBody {dto : CreateWithdrawRequestDto}
    (announced : ∀ resourceId, Issues permits
      (createCompletedEvent context (withdrawParams userId dto) resourceId)) :
    Issues permits (withdrawBody context userId dto) := by
  refine (issues_getAccountOrThrow (money _ (by trivial))).bind fun account => ?_
  refine (issues_ensureOwnedByUserOrThrow _ _).bind fun _ => ?_
  refine (issues_ensureActiveOrThrow _ _).bind fun _ => ?_
  refine (issues_query (money _ (by trivial))).bind fun created => ?_
  refine (issues_query (money _ (by trivial))).bind fun (count : ℕ) => ?_
  by_cases short : count ≠ 1
  · rw [if_pos short]
    exact issues_throw _
  · rw [if_neg short]
    exact issues_completion money announced

theorem issues_transferBody {dto : CreateTransferRequestDto}
    (announced : ∀ resourceId, Issues permits
      (createCompletedEvent context (transferParams userId dto) resourceId)) :
    Issues permits (transferBody context userId dto) := by
  have moves (accountId : String) : Issues permits (moveMoney dto accountId) :=
    issues_moveMoney (fun _ _ _ => money _ (by trivial)) fun _ _ => money _ (by trivial)
  refine (issues_getAccountOrThrow (money _ (by trivial))).bind fun fromAccount => ?_
  refine (issues_getAccountOrThrow (money _ (by trivial))).bind fun toAccount => ?_
  refine (issues_ensureOwnedByUserOrThrow _ _).bind fun _ => ?_
  refine (issues_ensureActiveOrThrow _ _).bind fun _ => ?_
  refine (issues_ensureActiveOrThrow _ _).bind fun _ => ?_
  refine (issues_query (money _ (by trivial))).bind fun created => ?_
  refine (moves _).bind fun _ => ?_
  refine (moves _).bind fun _ => ?_
  exact issues_completion money announced

end Bodies

theorem issues_transaction {α : Type} {body : Service α}
    (control : ∀ statement : Statement, ¬statement.Inner → permits (.query statement))
    (issues : Issues permits body) : Issues permits (transaction body) := by
  refine (issues_query (control _ (by exact id))).bind fun _ => issues.attempt.bind fun outcome => ?_
  cases outcome with
  | ok value => exact (issues_query (control _ (by exact id))).bind fun _ => issues_pure value
  | error error =>
      exact (Issues.attempt (issues_query (control _ (by exact id)))).bind fun _ => issues_throw error

/-! ## Around the transactions -/

theorem issues_recordRejection {context : RequestContext} {params : TransactionParams}
    {reason : Option String}
    (control : ∀ statement : Statement, ¬statement.Inner → permits (.query statement))
    (recorded : Issues permits (createRejectedTransaction params reason))
    (announced : ∀ resourceId,
      Issues permits (createFailedFraudEvent context params resourceId reason)) :
    Issues permits (recordRejection context params reason) :=
  (issues_transaction control (recorded.bind fun _ => announced _)).bind fun _ => issues_throw _

theorem issues_fallbackOrThrow
    (finds : ∀ key, permits (.query (.transactionFindFirst key))) (err : ServiceError) (userId : Uuid)
    (referenceId : String) (type : TransactionType) :
    Issues permits (fallbackOrThrow err userId referenceId type) := by
  refine Issues.bind ?_ fun fallback => ?_
  · unfold resolveP2002Fallback
    split
    · exact issues_pure _
    · refine (issues_query (finds _)).bind fun existing => ?_
      cases existing with
      | none => exact issues_pure _
      | some byRef =>
          simp only
          split
          · exact issues_pure _
          · split
            · exact issues_throw _
            · split <;> exact issues_throw _
  · cases fallback with
    | some fallback => exact issues_pure fallback
    | none => exact issues_throw err

theorem issues_tooManyTransfersInMinuteRule (ready : permits .isReady) (now : permits .now)
    (increments : ∀ scope, permits (.evalIncrementMinute scope)) (limit : ℚ)
    (input : TransferFraudCheckInput) :
    Issues permits (tooManyTransfersInMinuteRule limit input) := by
  refine (issues_request ready).bind fun (ready : Bool) => ?_
  cases ready with
  | false => exact issues_pure _
  | true =>
      refine (issues_request now).bind fun now => ?_
      refine (issues_request (increments _)).bind fun (count : Option ℕ) => ?_
      cases count <;> exact issues_pure _

theorem issues_evaluateRules {Input : Type} {input : Input}
    {rules : List (Input → Service RuleResult)}
    (issues : ∀ rule ∈ rules, Issues permits (rule input)) :
    Issues permits (evaluateRules input rules) := by
  induction rules with
  | nil => exact issues_pure _
  | cons rule rules induction =>
      have others := induction fun other member => issues other (List.mem_cons_of_mem _ member)
      refine (issues rule List.mem_cons_self).bind fun result => ?_
      cases result with
      | none => exact others
      | some decided =>
          simp only
          split
          · exact issues_pure _
          · exact others

theorem issues_resolveExistingOrThrow (existing : Option Transaction) (type : TransactionType) :
    Issues permits (resolveExistingOrThrow existing type) := by
  unfold resolveExistingOrThrow
  cases existing with
  | none => exact issues_pure _
  | some row =>
      simp only
      split
      · exact issues_pure _
      · split
        · exact issues_throw _
        · exact issues_pure _

section Asking

variable (asks : ∀ command, Command.Asks command → permits command)
include asks

theorem issues_existing {userId : Uuid} {type : TransactionType} {referenceId : String}
    {next : Service TransactionResponseDto} (rest : Issues permits next) :
    Issues permits (do
      let existing ← findExisting userId type referenceId
      match ← resolveExistingOrThrow existing type with
      | some idempotentResult => pure idempotentResult
      | none => next) := by
  refine (issues_query (asks _ (by trivial))).bind fun existing => ?_
  refine (issues_resolveExistingOrThrow existing type).bind fun resolved => ?_
  cases resolved with
  | some dto => exact issues_pure dto
  | none => exact rest

theorem issues_releaseReservation (rule : DailyLimitRule) (userId : Uuid) (referenceId : String) :
    Issues permits (rule.releaseReservation userId referenceId) :=
  (issues_request (asks _ (by trivial))).bind fun _ =>
    (issues_request (asks _ (by trivial))).bind fun _ => issues_pure _

theorem issues_evaluate (rule : DailyLimitRule) (userId : Uuid) (referenceId : String)
    (amount : ℚ) : Issues permits (rule.evaluate userId referenceId amount) := by
  refine (issues_request (asks _ (by trivial))).bind fun now => ?_
  refine (issues_request (asks _ (by trivial))).bind fun (allowed : Option Bool) => ?_
  cases allowed with
  | some allowed => exact issues_pure _
  | none =>
      refine .tryCatch ?_ fun _ => issues_pure _
      exact (issues_request (asks _ (by trivial))).bind fun _ =>
        (issues_query (asks _ (by trivial))).bind fun _ => issues_pure _

theorem issues_evaluateWithdraw (config : FraudConfig) (input : WithdrawFraudCheckInput) :
    Issues permits (evaluateWithdraw config input) := by
  refine issues_evaluateRules fun rule member => ?_
  simp only [withdrawRules, List.mem_cons, List.not_mem_nil, or_false] at member
  rcases member with rfl | rfl
  · exact issues_pure _
  · exact issues_evaluate asks _ _ _ _

theorem issues_evaluateTransfer (config : FraudConfig) (input : TransferFraudCheckInput) :
    Issues permits (evaluateTransfer config input) := by
  refine issues_evaluateRules fun rule member => ?_
  simp only [transferRules, List.mem_cons, List.not_mem_nil, or_false] at member
  rcases member with rfl | rfl | rfl | rfl
  · exact issues_pure _
  · exact issues_pure _
  · exact issues_tooManyTransfersInMinuteRule (asks _ (by trivial)) (asks _ (by trivial))
      (fun _ => asks _ (by trivial)) _ _
  · exact issues_evaluate asks _ _ _ _

end Asking

/-! ## Account calls -/

section Accounts

variable (finds : ∀ id filter, permits (.query (.accountFindFirst id filter)))
include finds

theorem issues_getAccountById (userId : Uuid) (id : String) :
    Issues permits (getAccountById userId id) := by
  refine (issues_query (finds _ _)).bind fun account => ?_
  cases account with
  | none => exact issues_throw _
  | some account => exact issues_pure _

variable (audits : ∀ data, permits (.query (.auditLogCreate data)))
include audits

theorem issues_createAccount {userId : Uuid} {dto : CreateAccountRequestDto}
    (creates : Issues permits (query (.accountCreate userId dto.currency)))
    (context : RequestContext) : Issues permits (createAccount context userId dto) := by
  refine (issues_query (finds _ _)).bind fun existing => ?_
  cases existing with
  | some account => exact issues_throw _
  | none =>
      refine Issues.bind ?_ fun account => (issues_query (audits _)).bind fun _ => issues_pure _
      refine .tryCatch creates fun err => ?_
      split <;> exact issues_throw _

/-- What a status change does once it has set the status, or has not. -/
theorem issues_changed (change : StatusChange) (context : RequestContext) (userId : Uuid)
    (id : String) (count : ℕ) :
    Issues permits (if count ≠ 1 then do
        match ← findOwned userId id with
        | none => throw (.http (.notFound "Account not found"))
        | some account => throw (.http (.badRequest (change.failureMessage account)))
      else do
        recordAudit context userId change.action id
        match ← findOwned userId id with
        | none => throw (.http (.notFound "Account not found"))
        | some account => pure (Accounts.toResponseDto account)) := by
  split
  · refine (issues_query (finds _ _)).bind fun account => ?_
    cases account <;> exact issues_throw _
  · refine (issues_query (audits _)).bind fun _ => (issues_query (finds _ _)).bind fun account => ?_
    cases account with
    | none => exact issues_throw _
    | some account => exact issues_pure _

theorem issues_changeStatus {change : StatusChange} {context : RequestContext} {userId : Uuid}
    {id : String} (updates : Issues permits (query (.accountUpdateMany id
      { change.filter with customerId := some userId } (.setStatus change.status)))) :
    Issues permits (changeStatus change context userId id) :=
  updates.bind fun count => issues_changed finds audits change context userId id count

end Accounts

end Programs

/-! ## Commands that are no statements -/

/-- The database is changed by statements only. -/
theorem perform_server {Thread : Type} [DecidableEq Thread] [Fintype Thread] {thread : Thread}
    {command : Command} {choice : Choice} {before after : World Thread} {answer : command.Answer}
    (other : ∀ statement, command ≠ .query statement)
    (performed : before.perform thread command choice = some (answer, after)) :
    after.server = before.server := by
  cases command with
  | query statement => exact absurd rfl (other statement)
  | isReady | now =>
      cases performed
      rfl
  | evalReserve | evalRelease | evalIncrementMinute =>
      cases outcome : choice.redis <;>
        simp only [World.perform, World.evaluated, outcome] at performed
      all_goals
        cases performed
        rfl

theorem perform_cases {Thread : Type} [DecidableEq Thread] [Fintype Thread] {thread : Thread}
    {command : Command} {choice : Choice} {before after : World Thread} {answer : command.Answer}
    (performed : before.perform thread command choice = some (answer, after)) :
    ((∀ statement, command ≠ .query statement) ∧ after.server = before.server) ∨
      ∃ statement reply, command = .query statement ∧
        Server.Performs before.server thread statement reply after.server := by
  by_cases query : ∃ statement, command = .query statement
  · rcases query with ⟨statement, rfl⟩
    rcases Option.map_eq_some_iff.mp performed with ⟨⟨reply, server⟩, done, equal⟩
    cases equal
    exact .inr ⟨statement, answer, rfl, Server.perform_performs done⟩
  · have other : ∀ statement, command ≠ .query statement :=
      fun statement same => query ⟨statement, same⟩
    exact .inl ⟨other, perform_server other performed⟩

/-! ## Calls whose commands are limited -/

theorem inner_of_money (statement : Statement) (money : statement.Money) :
    Command.Inner (.query statement) := by
  cases statement <;> first | exact money | trivial

theorem inner_withdrawBody (context : RequestContext) (userId : Uuid)
    (dto : CreateWithdrawRequestDto) : Issues Command.Inner (withdrawBody context userId dto) :=
  issues_withdrawBody inner_of_money fun _ => issues_query (by trivial)

theorem inner_transferBody (context : RequestContext) (userId : Uuid)
    (dto : CreateTransferRequestDto) : Issues Command.Inner (transferBody context userId dto) :=
  issues_transferBody inner_of_money fun _ => issues_query (by trivial)

theorem quiet_recordRejection (context : RequestContext) (params : TransactionParams)
    (reason : Option String) :
    Issues Command.Quiet (recordRejection context params reason) := by
  have control (statement : Statement) (outer : ¬statement.Inner) :
      Command.Quiet (.query statement) := by
    cases statement <;> first | trivial | exact absurd trivial outer
  exact issues_recordRejection control (issues_query (by rintro ⟨⟩)) fun _ =>
    issues_query (by trivial)

theorem quiet_fallbackOrThrow (err : ServiceError) (userId : Uuid) (referenceId : String)
    (type : TransactionType) :
    Issues Command.Quiet (fallbackOrThrow err userId referenceId type) :=
  issues_fallbackOrThrow (fun _ => trivial) err userId referenceId type

theorem quiet_tooManyTransfersInMinuteRule (limit : ℚ) (input : TransferFraudCheckInput) :
    Issues Command.Quiet (tooManyTransfersInMinuteRule limit input) :=
  issues_tooManyTransfersInMinuteRule trivial trivial (fun _ => trivial) limit input

end BankingBackend
