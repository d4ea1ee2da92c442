import BankingBackend.Calls.Commands
import BankingBackend.Calls.Interleaving
import BankingBackend.Foundation.Text

/-! # The commands and the events of a call

Every command that a call can issue for its request. An event is written by
`createCompletedEvent` or `createFailedFraudEvent` only.
-/

namespace BankingBackend

open Foundation Foundation.Program Postgres Common Fraud Transactions Accounts

/-! ## Reasons of a rejection -/

def FraudReason (reason : Option String) : Prop := ∀ rule ∈ reason, Filled rule

/-- A rule that rejects says why. -/
def Explained (result : RuleResult) : Prop := ∀ decided ∈ result, FraudReason decided.reason

theorem explained_none : Explained none := by
  rintro _ ⟨⟩

theorem explained_reject {name : String} (filled : Filled name) : Explained (reject name) := by
  rintro _ ⟨⟩ _ ⟨⟩
  exact filled

theorem explained_ite {name : String} {rejects : Prop} [Decidable rejects] (filled : Filled name) :
    Explained (if rejects then reject name else none) := by
  split
  · exact explained_reject filled
  · exact explained_none

theorem gives_evaluate {rule : DailyLimitRule} (filled : Filled rule.name) (userId : Uuid)
    (referenceId : String) (amount : ℚ) :
    Gives Explained (rule.evaluate userId referenceId amount) := by
  refine .bind fun now => .bind fun (allowed : Option Bool) => ?_
  cases allowed with
  | some allowed =>
      cases allowed with
      | true => exact gives_pure explained_none
      | false => exact gives_pure (explained_reject filled)
  | none =>
      refine .tryCatch ?_ fun _ => gives_pure (explained_reject filled)
      exact .bind fun now => .bind fun usedToday => gives_pure (explained_ite filled)

theorem gives_tooManyTransfersInMinuteRule (limit : ℚ) (input : TransferFraudCheckInput) :
    Gives Explained (tooManyTransfersInMinuteRule limit input) := by
  refine .bind fun (ready : Bool) => ?_
  cases ready with
  | false => exact gives_pure explained_none
  | true =>
      refine .bind fun now => .bind fun (count : Option ℕ) => ?_
      cases count with
      | none => exact gives_pure explained_none
      | some count => exact gives_pure (explained_ite (by decide))

theorem gives_evaluateRules {Input : Type} {input : Input}
    {rules : List (Input → Service RuleResult)}
    (explained : ∀ rule ∈ rules, Gives Explained (rule input)) :
    Gives (fun result : FraudDecisionResult => FraudReason result.reason)
      (evaluateRules input rules) := by
  induction rules with
  | nil =>
      refine gives_pure ?_
      rintro _ ⟨⟩
  | cons rule rules induction =>
      have others := induction fun other member => explained other (List.mem_cons_of_mem _ member)
      refine Gives.bind_gives (explained rule List.mem_cons_self) fun result explains => ?_
      cases result with
      | none => exact others
      | some decided =>
          simp only
          split
          · exact gives_pure (explains decided rfl)
          · exact others

/-! ## What a call creates -/

inductive Written (request : Request) : TransactionEventPayload → Prop
  | completed {params : TransactionParams} (asks : request.params? = some params)
      (resourceId : Uuid) :
      Written request (eventPayload request.context params resourceId .success none none)
  | rejected {params : TransactionParams} (asks : request.params? = some params)
      (resourceId : Uuid) {fraudRule : Option String} (reason : FraudReason fraudRule) :
      Written request
        (eventPayload request.context params resourceId .failure (some "FRAUD_REJECTED") fraudRule)

def Request.change? (request : Request) : Option (String × StatusChange) :=
  match request.operation with
  | .freezeAccount id => some (id, freeze)
  | .unfreezeAccount id => some (id, unfreeze)
  | .closeAccount id => some (id, close)
  | _ => none

theorem Request.change?_params? {request : Request} {text : String} {change : StatusChange}
    (asks : request.change? = some (text, change)) : request.params? = none := by
  rcases request with ⟨userId, context, operation⟩
  cases operation <;> cases asks <;> rfl

inductive Issued (request : Request) : interface.Op → Prop
  | asks {command : Command} (asks : Command.Asks command) : Issued request command
  | control {statement : Statement} (outer : ¬statement.Inner) {params : TransactionParams}
      (asks : request.params? = some params) : Issued request (.query statement)
  | money {statement : Statement} (money : statement.Money) {params : TransactionParams}
      (asks : request.params? = some params) : Issued request (.query statement)
  | announces {data : EventData} (written : Written request data.payload) :
      Issued request (.query (.eventCreate data))
  | finds (id : Option String) (filter : AccountFilter) :
      Issued request (.query (.accountFindFirst id filter))
  | lists (filter : AccountFilter) : Issued request (.query (.accountFindMany filter))
  | creates {dto : CreateAccountRequestDto} (asks : request.operation = .createAccount dto) :
      Issued request (.query (.accountCreate request.userId dto.currency))
  | changes {text : String} {change : StatusChange} (asks : request.change? = some (text, change)) :
      Issued request (.query (.accountUpdateMany text
        { change.filter with customerId := some request.userId } (.setStatus change.status)))
  | audits (data : AuditLogData) (moneyless : request.params? = none) :
      Issued request (.query (.auditLogCreate data))

section Programs

variable {request : Request} {params : TransactionParams}
  (asks : request.params? = some params)
include asks

theorem issued_completed (resourceId : Uuid) :
    Issues (Issued request) (createCompletedEvent request.context params resourceId) :=
  issues_query (.announces (.completed asks resourceId))

theorem issued_transaction {α : Type} {body : Service α} (issued : Issues (Issued request) body) :
    Issues (Issued request) (transaction body) :=
  issues_transaction (fun _ outer => .control outer asks) issued

theorem issued_recordRejection {reason : Option String} (explains : FraudReason reason) :
    Issues (Issued request) (recordRejection request.context params reason) :=
  issues_recordRejection (fun _ outer => .control outer asks)
    (issues_query (.money (by trivial) asks)) fun resourceId =>
      issues_query (.announces (.rejected asks resourceId explains))

/-- After the evaluation, a rejection is recorded with its reason, or the money is moved. -/
theorem issued_checked {Input : Type} {input : Input}
    {rules : List (Input → Service RuleResult)} {rule : DailyLimitRule} {userId : Uuid}
    {referenceId : String} {type : TransactionType} {next : Service TransactionResponseDto}
    (evaluates : Issues (Issued request) (evaluateRules input rules))
    (explained : ∀ rule ∈ rules, Gives Explained (rule input))
    (rest : Issues (Issued request) next) :
    Issues (Issued request)
      (tryCatch
        (do
          let preFraudResult ← evaluateRules input rules
          if preFraudResult.decision = .reject then
            recordRejection request.context params preFraudResult.reason
          else next)
        fun err => do
          if err.code ≠ some "P2002" then rule.releaseReservation userId referenceId
          fallbackOrThrow err userId referenceId type) := by
  refine .tryCatch ?_ fun err => ?_
  · refine Issues.bind_gives evaluates (gives_evaluateRules explained) fun result explains => ?_
    split
    · exact issued_recordRejection asks explains
    · exact rest
  · have fallback : Issues (Issued request) (fallbackOrThrow err userId referenceId type) :=
      issues_fallbackOrThrow (fun _ => .asks trivial) err userId referenceId type
    split
    · exact (issues_releaseReservation (fun _ asks => .asks asks) rule userId referenceId).bind
        fun _ => fallback
    · exact fallback

end Programs

/-! ### The calls -/

section Calls

variable {request : Request}

theorem issued_createDeposit {userId : Uuid} {dto : CreateDepositRequestDto}
    (asks : request.params? = some (depositParams userId dto)) :
    Issues (Issued request) (createDeposit request.context userId dto) :=
  issues_existing (fun _ asks => .asks asks) (.tryCatch
    (issued_transaction asks
      (issues_depositBody (fun _ money => .money money asks) (issued_completed asks)))
    fun err => issues_fallbackOrThrow (fun _ => .asks trivial) err _ _ _)

theorem issued_createWithdraw {config : FraudConfig} {userId : Uuid}
    {dto : CreateWithdrawRequestDto} (asks : request.params? = some (withdrawParams userId dto)) :
    Issues (Issued request) (createWithdraw config request.context userId dto) := by
  refine issues_existing (fun _ asks => .asks asks)
    (issued_checked asks (issues_evaluateWithdraw (fun _ asks => .asks asks) config _) ?_ ?_)
  · intro rule member
    rcases List.mem_cons.mp member with rfl | member
    · exact gives_pure (explained_ite (by decide))
    · rcases List.mem_singleton.mp member with rfl
      have filled : Filled (dailyWithdrawLimitExceededRule config).name := by
        change Filled "DAILY_WITHDRAW_LIMIT_EXCEEDED"
        decide +kernel
      exact gives_evaluate filled _ _ _
  · exact issued_transaction asks
      (issues_withdrawBody (fun _ money => .money money asks) (issued_completed asks))

theorem issued_transferAttempts {userId : Uuid} {dto : CreateTransferRequestDto}
    (asks : request.params? = some (transferParams userId dto)) (remaining : ℕ) :
    Issues (Issued request) (transferAttempts request.context userId dto remaining) := by
  have attempt : Issues (Issued request) (transaction (transferBody request.context userId dto)) :=
    issued_transaction asks
      (issues_transferBody (fun _ money => .money money asks) (issued_completed asks))
  induction remaining with
  | zero => exact attempt
  | succ remaining induction =>
      refine .tryCatch attempt fun err => ?_
      split
      · exact induction
      · exact issues_throw err

theorem issued_createTransfer {config : FraudConfig} {userId : Uuid}
    {dto : CreateTransferRequestDto} (asks : request.params? = some (transferParams userId dto)) :
    Issues (Issued request) (createTransfer config request.context userId dto) := by
  refine issues_existing (fun _ asks => .asks asks)
    (issued_checked asks (issues_evaluateTransfer (fun _ asks => .asks asks) config _) ?_
      (issued_transferAttempts asks _))
  · intro rule member
    simp only [transferRules, List.mem_cons, List.not_mem_nil, or_false] at member
    rcases member with rfl | rfl | rfl | rfl
    · exact gives_pure (explained_ite (by decide))
    · exact gives_pure (explained_ite (by decide))
    · exact gives_tooManyTransfersInMinuteRule _ _
    · have filled : Filled (dailyTransferLimitExceededRule config).name := by
        change Filled "DAILY_TRANSFER_LIMIT_EXCEEDED"
        decide +kernel
      exact gives_evaluate filled _ _ _

theorem issued_changeStatus {text : String} {change : StatusChange}
    (asks : request.change? = some (text, change)) :
    Issues (Issued request) (changeStatus change request.context request.userId text) :=
  issues_changeStatus .finds (fun data => .audits data (Request.change?_params? asks))
    (issues_query (.changes asks))

theorem issued_handle (config : FraudConfig) (request : Request) :
    Issues (Issued request) (handle config request) := by
  have responds {α : Type} {program : Service α} (issued : Issues (Issued request) program)
      (respond : α → Response) : Issues (Issued request) (respond <$> program) :=
    issued.bind fun _ => issues_pure _
  rcases request with ⟨userId, context, operation⟩
  cases operation with
  | createDeposit dto => exact responds (issued_createDeposit rfl) _
  | createWithdraw dto => exact responds (issued_createWithdraw rfl) _
  | createTransfer dto => exact responds (issued_createTransfer rfl) _
  | getAccounts => exact responds ((issues_query (.lists _)).bind fun _ => issues_pure _) _
  | getAccountById id => exact responds (issues_getAccountById .finds userId id) _
  | createAccount dto =>
      exact responds (issues_createAccount .finds (fun data => .audits data rfl)
        (issues_query (.creates rfl)) context) _
  | freezeAccount id | unfreezeAccount id | closeAccount id =>
      exact responds (issued_changeStatus rfl) _

end Calls

/-- A command that creates no event but those written for the request. -/
def Announcing (request : Request) (command : interface.Op) : Prop :=
  ∀ data, command = .query (.eventCreate data) → Written request data.payload

theorem Issued.announcing {request : Request} {command : interface.Op}
    (issued : Issued request command) : Announcing request command := by
  rintro data rfl
  cases issued with
  | asks asks => exact asks.elim
  | control outer => exact absurd trivial outer
  | money money => exact money.elim
  | announces written => exact written

/-! ## Every interleaving -/

section Runs

variable {Thread : Type} [DecidableEq Thread] [Fintype Thread] {config : FraudConfig}
  {requests : Thread → Request}

theorem perform_written {thread : Thread} {command : Command} {choice : Choice}
    {before after : World Thread} {answer : command.Answer} {property : TransactionEventPayload → Prop}
    (events : before.server.Events property)
    (written : ∀ payload, Written (requests thread) payload → property payload)
    (announces : Announcing (requests thread) command)
    (performed : before.perform thread command choice = some (answer, after)) :
    after.server.Events property := by
  by_cases statement : ∃ statement, command = .query statement
  · rcases statement with ⟨statement, rfl⟩
    rcases Option.map_eq_some_iff.mp performed with ⟨⟨reply, server⟩, done, equal⟩
    cases equal
    refine Server.perform_events events (fun data same => written _ (announces data ?_)) done
    rw [same]
  · rw [perform_server (fun query same => statement ⟨query, same⟩) performed]
    exact events

/-- Every committed event is written for one of the requests. -/
theorem Reachable.written {current : Configuration Thread}
    (reachable : Reachable config requests current) :
    ∀ event ∈ current.shared.server.database.events,
      ∃ thread, Written (requests thread) event.payload := by
  rcases reachable with ⟨redis, now, run⟩
  have everywhere := run.invariant
    (fun between => (∀ thread, (between.program thread).Only (Issued (requests thread))) ∧
      between.shared.server.Events fun payload => ∃ thread, Written (requests thread) payload)
    ⟨fun thread => issued_handle config (requests thread), by simp [initial, Server.initial,
      Database.empty], by simp [initial, Server.initial]⟩ ?_
  · exact everywhere.2.committed
  · rintro between label following ⟨only, events⟩ _ taken
    refine ⟨Machine.only_step taken only, ?_⟩
    cases label with
    | environment event =>
        rcases Machine.step_environment taken with ⟨shared, happened, rfl⟩
        rwa [environment_server happened]
    | perform thread choice =>
        rcases Machine.step_perform taken with ⟨command, next, answer, shared, program, performed, rfl⟩
        have issued := only thread
        rw [program] at issued
        exact perform_written events (fun _ written => ⟨thread, written⟩) issued.1.announcing performed

end Runs

end BankingBackend
