import BankingBackend.Calls.Commands
import BankingBackend.Calls.Interleaving
import BankingBackend.Foundation.Monitor

/-! # Calls without a conflict

A call that moves money throws a `ConflictException` only for a pending row that its
look-up finds, and no pending row is ever committed.
-/

namespace BankingBackend

open Foundation Postgres Common Fraud Transactions

def Unconflicted {α : Type} (result : Except ServiceError α) : Prop :=
  ∀ message, result ≠ .error (.http (.conflict message))

theorem Decided.notPending {row : Transaction} (decided : Decided row) : row.status ≠ .pending := by
  rcases decided with completed | ⟨rejected, _⟩
  · rw [completed]
    decide
  · rw [rejected]
    decide

/-- No look-up of a transaction finds a pending row. -/
def Common.Command.FindsDecided : (op : interface.Op) → interface.Answer op → Prop
  | .query (.transactionFindFirst _), .ok (some row) => row.status ≠ .pending
  | _, _ => True

def decidedMonitor : Monitor interface Unit where
  permits _ _ := True
  moves _ op answer _ := Command.FindsDecided op answer

/-- While no look-up finds a pending row, the program throws no `ConflictException`. -/
def Clears {α : Type} (program : Service α) : Prop :=
  decidedMonitor.Obeys (fun result _ => Unconflicted result) program ()

section Programs

variable {α β : Type} {program : Service α}

theorem unconflicted_ok (value : α) : Unconflicted (.ok value : Except ServiceError α) := by
  rintro message ⟨⟩

theorem Unconflicted.error {error : ServiceError}
    (unconflicted : Unconflicted (.error error : Except ServiceError α)) :
    Unconflicted (.error error : Except ServiceError β) := by
  rintro message ⟨⟩
  exact unconflicted message rfl

theorem clears_pure (value : α) : Clears (pure value : Service α) := unconflicted_ok value

theorem clears_throw {error : ServiceError}
    (unconflicted : Unconflicted (.error error : Except ServiceError α)) :
    Clears (throw error : Service α) := unconflicted

theorem Clears.bind {next : α → Service β} (first : Clears program)
    (rest : ∀ value, Clears (next value)) : Clears (program >>= next) :=
  Monitor.Obeys.bind first (fun _ _ unconflicted => unconflicted.error) fun value _ _ => rest value

theorem Clears.tryCatch {handler : ServiceError → Service α} (first : Clears program)
    (handles : ∀ error, Unconflicted (.error error : Except ServiceError α) →
      Clears (handler error)) : Clears (tryCatch program handler) :=
  Monitor.Obeys.tryCatch first (fun _ _ unconflicted => unconflicted) fun error _ unconflicted =>
    handles error unconflicted

theorem clears_request (command : Command) : Clears (request command) :=
  ⟨trivial, fun answer _ _ => unconflicted_ok answer⟩

theorem clears_query (statement : Statement) : Clears (query statement) := by
  refine (clears_request (.query statement)).bind fun answer => ?_
  cases answer with
  | ok value => exact clears_pure value
  | error error => exact clears_throw (by rintro message ⟨⟩)

theorem clears_transaction {body : Service α} (clears : Clears body) :
    Clears (transaction body) := by
  refine (clears_query _).bind fun _ => Monitor.Obeys.attempt clears fun outcome _ holds => ?_
  cases outcome with
  | ok value => exact (clears_query .commit).bind fun _ => clears_pure value
  | error error =>
      refine Monitor.Obeys.attempt (clears_query .rollback) fun _ _ _ => ?_
      exact clears_throw holds.error

/-! ## Bodies -/

theorem clears_getAccountOrThrow (text : String) : Clears (getAccountOrThrow text) := by
  refine (clears_query _).bind fun account => ?_
  cases account with
  | some account => exact clears_pure account
  | none => exact clears_throw (by rintro message ⟨⟩)

theorem clears_ensureOwnedByUserOrThrow (owner userId : Uuid) :
    Clears (ensureOwnedByUserOrThrow owner userId) := by
  unfold ensureOwnedByUserOrThrow
  split
  · exact clears_throw (by rintro message ⟨⟩)
  · exact clears_pure ()

theorem clears_ensureActiveOrThrow (status : AccountStatus) (message : String) :
    Clears (ensureActiveOrThrow status message) := by
  unfold ensureActiveOrThrow
  split
  · exact clears_throw (by rintro message ⟨⟩)
  · exact clears_pure ()

theorem clears_completion (context : RequestContext) (params : TransactionParams) (id : Uuid) :
    Clears (do
      let completedTransaction ← markCompleted id
      createCompletedEvent context params completedTransaction.id
      pure (Transactions.toResponseDto completedTransaction)) :=
  (clears_query _).bind fun _ => (clears_query _).bind fun _ => clears_pure _

theorem clears_depositBody (context : RequestContext) (userId : Uuid)
    (dto : CreateDepositRequestDto) : Clears (depositBody context userId dto) := by
  refine (clears_getAccountOrThrow _).bind fun account => ?_
  refine (clears_ensureOwnedByUserOrThrow _ _).bind fun _ => ?_
  refine (clears_ensureActiveOrThrow _ _).bind fun _ => ?_
  exact (clears_query _).bind fun _ => (clears_query _).bind fun _ => clears_completion _ _ _

theorem clears_withdrawBody (context : RequestContext) (userId : Uuid)
    (dto : CreateWithdrawRequestDto) : Clears (withdrawBody context userId dto) := by
  refine (clears_getAccountOrThrow _).bind fun account => ?_
  refine (clears_ensureOwnedByUserOrThrow _ _).bind fun _ => ?_
  refine (clears_ensureActiveOrThrow _ _).bind fun _ => ?_
  refine (clears_query _).bind fun _ => (clears_query _).bind fun (count : ℕ) => ?_
  split
  · exact clears_throw (by rintro message ⟨⟩)
  · exact clears_completion _ _ _

theorem clears_moveMoney (dto : CreateTransferRequestDto) (accountId : String) :
    Clears (moveMoney dto accountId) := by
  unfold moveMoney
  split
  · refine (clears_query _).bind fun (count : ℕ) => ?_
    split
    · exact clears_throw (by rintro message ⟨⟩)
    · exact clears_pure _
  · exact clears_query _

theorem clears_transferBody (context : RequestContext) (userId : Uuid)
    (dto : CreateTransferRequestDto) : Clears (transferBody context userId dto) := by
  refine (clears_getAccountOrThrow _).bind fun fromAccount => ?_
  refine (clears_getAccountOrThrow _).bind fun toAccount => ?_
  refine (clears_ensureOwnedByUserOrThrow _ _).bind fun _ => ?_
  refine (clears_ensureActiveOrThrow _ _).bind fun _ => ?_
  refine (clears_ensureActiveOrThrow _ _).bind fun _ => (clears_query _).bind fun _ => ?_
  refine (clears_moveMoney _ _).bind fun _ => (clears_moveMoney _ _).bind fun _ => ?_
  exact clears_completion _ _ _

/-! ## Around the transactions -/

theorem clears_evaluate (rule : DailyLimitRule) (userId : Uuid) (referenceId : String)
    (amount : ℚ) : Clears (rule.evaluate userId referenceId amount) := by
  refine (clears_request .now).bind fun now => ?_
  refine (clears_request _).bind fun (allowed : Option Bool) => ?_
  cases allowed with
  | some allowed => exact clears_pure _
  | none =>
      refine .tryCatch ?_ fun _ _ => clears_pure _
      exact (clears_request .now).bind fun _ => (clears_query _).bind fun _ => clears_pure _

theorem clears_evaluateRules {Input : Type} {input : Input}
    {rules : List (Input → Service RuleResult)} (clears : ∀ rule ∈ rules, Clears (rule input)) :
    Clears (evaluateRules input rules) := by
  induction rules with
  | nil => exact clears_pure _
  | cons rule rules induction =>
      have others := induction fun other member => clears other (List.mem_cons_of_mem _ member)
      refine (clears rule List.mem_cons_self).bind fun result => ?_
      cases result with
      | none => exact others
      | some decided =>
          simp only
          split
          · exact clears_pure _
          · exact others

theorem clears_tooManyTransfersInMinuteRule (limit : ℚ) (input : TransferFraudCheckInput) :
    Clears (tooManyTransfersInMinuteRule limit input) := by
  refine (clears_request .isReady).bind fun (ready : Bool) => ?_
  cases ready with
  | false => exact clears_pure _
  | true =>
      refine (clears_request .now).bind fun now => ?_
      refine (clears_request _).bind fun (count : Option ℕ) => ?_
      cases count <;> exact clears_pure _

theorem clears_evaluateWithdraw (config : FraudConfig) (input : WithdrawFraudCheckInput) :
    Clears (evaluateWithdraw config input) := by
  refine clears_evaluateRules fun rule member => ?_
  simp only [withdrawRules, List.mem_cons, List.not_mem_nil, or_false] at member
  rcases member with rfl | rfl
  · exact clears_pure _
  · exact clears_evaluate _ _ _ _

theorem clears_evaluateTransfer (config : FraudConfig) (input : TransferFraudCheckInput) :
    Clears (evaluateTransfer config input) := by
  refine clears_evaluateRules fun rule member => ?_
  simp only [transferRules, List.mem_cons, List.not_mem_nil, or_false] at member
  rcases member with rfl | rfl | rfl | rfl
  · exact clears_pure _
  · exact clears_pure _
  · exact clears_tooManyTransfersInMinuteRule _ _
  · exact clears_evaluate _ _ _ _

theorem clears_recordRejection (context : RequestContext) (params : TransactionParams)
    (reason : Option String) : Clears (recordRejection context params reason) := by
  have creates : Clears (createRejectedTransaction params reason) := clears_query _
  have announces (resourceId : Uuid) :
      Clears (createFailedFraudEvent context params resourceId reason) := clears_query _
  refine (clears_transaction (creates.bind fun _ => announces _)).bind fun _ => ?_
  exact clears_throw (by rintro message ⟨⟩)

theorem finds_decided (userId : Uuid) (type : TransactionType) (referenceId : String) :
    decidedMonitor.Obeys (fun result _ => Unconflicted result ∧
      ∀ row, result = .ok (some row) → row.status ≠ .pending)
      (findExisting userId type referenceId) () := by
  refine ⟨trivial, fun answer _ finds => ?_⟩
  cases answer with
  | error error => exact ⟨by rintro message ⟨⟩, by rintro row ⟨⟩⟩
  | ok existing =>
      refine ⟨unconflicted_ok _, ?_⟩
      rintro row ⟨⟩
      exact finds

/-- The only `ConflictException` is that of a pending row. -/
theorem clears_fallbackOrThrow {err : ServiceError}
    (unconflicted : Unconflicted (.error err : Except ServiceError TransactionResponseDto))
    (userId : Uuid) (referenceId : String) (type : TransactionType) :
    Clears (fallbackOrThrow err userId referenceId type) := by
  have resolves : Clears (resolveP2002Fallback err userId referenceId type) := by
    unfold resolveP2002Fallback
    split
    · exact clears_pure _
    · refine Monitor.Obeys.bind (finds_decided userId type referenceId)
        (fun _ _ holds => holds.1.error) fun existing _ holds => ?_
      cases existing with
      | none => exact clears_pure _
      | some byRef =>
          have decided := holds.2 byRef rfl
          change Clears (if byRef.status = .completed then pure (some (toResponseDto byRef))
            else if isFraudRejection byRef then
              throw (.http (.badRequest (getFraudRejectionMessage type byRef.fraudReason)))
            else if byRef.status = .pending then
              throw (.http (.conflict "Transaction request is still in progress"))
            else throw (.http (.badRequest "Transaction request could not be processed")))
          split
          · exact clears_pure _
          · split
            · exact clears_throw (by rintro message ⟨⟩)
            · exact clears_throw (by rintro message ⟨⟩)
  refine resolves.bind fun fallback => ?_
  cases fallback with
  | some fallback => exact clears_pure fallback
  | none => exact clears_throw unconflicted

theorem clears_existing {userId : Uuid} {type : TransactionType} {referenceId : String}
    {next : Service TransactionResponseDto} (rest : Clears next) :
    Clears (do
      let existing ← findExisting userId type referenceId
      match ← resolveExistingOrThrow existing type with
      | some idempotentResult => pure idempotentResult
      | none => next) := by
  have finds : Clears (findExisting userId type referenceId) := clears_query _
  refine finds.bind fun existing => Clears.bind ?_ fun resolved => ?_
  · unfold resolveExistingOrThrow
    cases existing with
    | none => exact clears_pure _
    | some existing =>
        simp only
        split
        · exact clears_pure _
        · split
          · exact clears_throw (by rintro message ⟨⟩)
          · exact clears_pure _
  · cases resolved with
    | some dto => exact clears_pure dto
    | none => exact rest

theorem clears_checked {evaluation : Service FraudDecisionResult} {rule : DailyLimitRule}
    {userId : Uuid} {referenceId : String} {execution : Service TransactionResponseDto}
    (context : RequestContext) (params : TransactionParams) (evaluates : Clears evaluation)
    (executes : Clears execution) :
    Clears (tryCatch
      (do
        let preFraudResult ← evaluation
        if preFraudResult.decision = .reject then
          recordRejection context params preFraudResult.reason
        else execution)
      fun err => do
        if err.code ≠ some "P2002" then rule.releaseReservation userId referenceId
        fallbackOrThrow err params.actorCustomerId params.referenceId params.type) := by
  have releases : Clears (rule.releaseReservation userId referenceId) :=
    (clears_request .now).bind fun _ => (clears_request _).bind fun _ => clears_pure _
  refine .tryCatch (evaluates.bind fun result => ?_) fun err unconflicted => ?_
  · split
    · exact clears_recordRejection context params result.reason
    · exact executes
  · have fallback := clears_fallbackOrThrow unconflicted params.actorCustomerId params.referenceId
      params.type
    split
    · exact releases.bind fun _ => fallback
    · exact fallback

theorem clears_transferAttempts (context : RequestContext) (userId : Uuid)
    (dto : CreateTransferRequestDto) (remaining : ℕ) :
    Clears (transferAttempts context userId dto remaining) := by
  have attempt := clears_transaction (clears_transferBody context userId dto)
  induction remaining with
  | zero => exact attempt
  | succ remaining induction =>
      refine .tryCatch attempt fun err unconflicted => ?_
      split
      · exact induction
      · exact clears_throw unconflicted

theorem clears_handle (config : FraudConfig) {request : Request} {params : TransactionParams}
    (asks : request.params? = some params) : Clears (handle config request) := by
  have responds {program : Service TransactionResponseDto} (clears : Clears program) :
      Clears (.transaction <$> program : Service Response) :=
    clears.bind fun _ => clears_pure _
  rcases request with ⟨userId, context, operation⟩
  cases operation with
  | createDeposit dto =>
      exact responds (clears_existing (.tryCatch
        (clears_transaction (clears_depositBody context userId dto)) fun err unconflicted =>
          clears_fallbackOrThrow unconflicted _ _ _))
  | createWithdraw dto =>
      exact responds (clears_existing (clears_checked context (withdrawParams userId dto)
        (clears_evaluateWithdraw config _)
        (clears_transaction (clears_withdrawBody context userId dto))))
  | createTransfer dto =>
      exact responds (clears_existing (clears_checked context (transferParams userId dto)
        (clears_evaluateTransfer config _) (clears_transferAttempts context userId dto _)))
  | _ => cases asks

end Programs

/-! ## Every interleaving -/

section Runs

variable {Thread : Type} [DecidableEq Thread] [Fintype Thread] {config : FraudConfig}
  {requests : Thread → Request} {current : Configuration Thread} {thread : Thread}

theorem perform_findsDecided {op : interface.Op} {choice : Choice} {before after : World Thread}
    {answer : interface.Answer op}
    (decided : ∀ row ∈ before.server.database.transactions, row.status ≠ .pending)
    (performed : before.perform thread op choice = some (answer, after)) :
    Command.FindsDecided op answer := by
  unfold Command.FindsDecided
  split
  · rename_i key row
    rcases Option.map_eq_some_iff.mp performed with ⟨⟨reply, server⟩, done, equal⟩
    cases equal
    unfold Server.perform at done
    split at done
    · have found := (Prod.mk.inj (Option.some.inj done)).1
      exact decided row (List.mem_of_find?_eq_some (Except.ok.inj found))
    · split at done <;> cases done
  · trivial

/-- A call that moves money never ends in a conflict. -/
theorem Reachable.unconflicted {params : TransactionParams} {result : CallResult}
    (reachable : Reachable config requests current)
    (asks : (requests thread).params? = some params)
    (ended : current.program thread = .done result) : Unconflicted result := by
  rcases reachable with ⟨redis, now, run⟩
  have everywhere : Reachable config requests current ∧
      decidedMonitor.Follows (fun result _ => Unconflicted result) (current.program thread) () := by
    refine run.invariant (fun between => Reachable config requests between ∧
      decidedMonitor.Follows (fun result _ => Unconflicted result) (between.program thread) ())
      ⟨⟨redis, now, .start⟩, clears_handle config asks⟩ ?_
    rintro between label next ⟨reachable, follows⟩ _ taken
    refine ⟨reachable.next taken, ?_⟩
    by_cases acts : ∃ choice, label = .perform thread choice
    · rcases acts with ⟨choice, rfl⟩
      rcases Machine.step_perform taken with ⟨op, rest, answer, shared, program, performed, rfl⟩
      rw [program] at follows
      have finds :=
        perform_findsDecided (fun _ member => (reachable.decided member).notPending) performed
      simpa using follows.2 answer () finds
    · rw [Machine.step_other taken fun choice same => acts ⟨choice, same⟩]
      exact follows
  have follows := everywhere.2
  rw [ended] at follows
  exact follows

end Runs

end BankingBackend
