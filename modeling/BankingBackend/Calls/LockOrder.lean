import BankingBackend.Calls.Commands
import BankingBackend.Calls.Interleaving
import BankingBackend.Foundation.Monitor

/-! # The order of row locks

Which rows a call holds and which one it updates next. A call updates a second row
only in a transfer, in the order of the two texts.
-/

namespace BankingBackend

open Foundation Foundation.Program Postgres Common Fraud Transactions Accounts

namespace Postgres.Statement

def update? : Statement → Option (String × AccountFilter × AccountUpdate)
  | .accountUpdate text data => some (text, {}, data)
  | .accountUpdateMany text filter data => some (text, filter, data)
  | _ => none

def updates (statement : Statement) : Option String := statement.update?.map Prod.fst

/-- The texts of the rows that the transaction holds after the statement. -/
def holding (held : List String) : Statement → List String
  | .commit | .rollback => []
  | .accountUpdate text _ | .accountUpdateMany text _ _ => text :: held
  | _ => held

end Postgres.Statement

/-! ## Monitoring a call -/

namespace Common.Command

def holding (held : List String) : interface.Op → List String
  | .query statement => statement.holding held
  | _ => held

def InOrder (before : String → String → Prop) (held : List String) : interface.Op → Prop
  | .query statement => ∀ text, statement.updates = some text → ∀ earlier ∈ held, before earlier text
  | _ => True

def Calm : interface.Op → Prop
  | .query statement => statement.updates = none
  | _ => True

end Common.Command

/-- The texts of the rows a call holds, each updated after those it may follow. -/
def lockMonitor (before : String → String → Prop) : Monitor interface (List String) where
  permits := Command.InOrder before
  moves held op _ following := following = Command.holding held op

section Programs

variable {α β : Type} {before : String → String → Prop} {program : Service α} {held : List String}

/-- The call holds no row before and after. -/
abbrev Settles (before : String → String → Prop) (program : Service α) : Prop :=
  (lockMonitor before).Obeys (fun _ held => held = []) program []

/-- The call updates its rows in the order, starting from the held ones. -/
abbrev Locks (before : String → String → Prop) (program : Service α) (held : List String) : Prop :=
  (lockMonitor before).Obeys (fun _ _ => True) program held

theorem inOrder_of_calm {op : interface.Op} (calm : Command.Calm op) :
    Command.InOrder before held op := by
  cases op with
  | query statement =>
      intro text updates
      rw [show statement.updates = none from calm] at updates
      cases updates
  | _ => trivial

theorem locks_of_calm (calm : Issues Command.Calm program) : Locks before program held :=
  Monitor.Follows.of_only (fun _ => True) calm
    (fun _ _ calm _ => ⟨inOrder_of_calm calm, fun _ _ _ => trivial⟩) trivial

theorem settles_of_calm (calm : Issues Command.Calm program) : Settles before program := by
  refine Monitor.Follows.of_only (fun held => held = []) calm ?_ rfl
  rintro _ op calm rfl
  refine ⟨inOrder_of_calm calm, ?_⟩
  rintro _ _ rfl
  cases op with
  | query statement =>
      cases statement with
      | accountUpdate => cases calm
      | accountUpdateMany => cases calm
      | _ => rfl
  | _ => rfl

theorem Settles.bind {next : α → Service β} (first : Settles before program)
    (rest : ∀ value, Settles before (next value)) : Settles before (program >>= next) := by
  refine Monitor.Obeys.bind first (fun _ _ none => none) ?_
  rintro value _ rfl
  exact rest value

theorem Settles.tryCatch {handler : ServiceError → Service α} (first : Settles before program)
    (rest : ∀ error, Settles before (handler error)) :
    Settles before (tryCatch program handler) := by
  refine Monitor.Obeys.tryCatch first (fun _ _ none => none) ?_
  rintro error _ rfl
  exact rest error

theorem locks_query {statement : Statement}
    (ordered : ∀ text, statement.updates = some text → ∀ earlier ∈ held, before earlier text) :
    (lockMonitor before).Obeys (fun _ final => final = statement.holding held) (query statement)
      held := by
  refine ⟨ordered, ?_⟩
  rintro answer _ rfl
  cases answer with
  | ok value => exact rfl
  | error error => exact rfl

theorem locks_then {next : α → Service β} {middle : List String}
    (first : (lockMonitor before).Obeys (fun _ final => final = middle) program held)
    (rest : ∀ value, Locks before (next value) middle) : Locks before (program >>= next) held := by
  refine Monitor.Obeys.bind first (fun _ _ _ => trivial) ?_
  rintro value _ rfl
  exact rest value

theorem settles_transaction (body : Locks before program []) :
    Settles before (transaction program) := by
  have control (held : List String) (statement : Statement) (ends : statement.holding held = [])
      (updates : statement.updates = none) :
      (lockMonitor before).Obeys (fun _ final => final = []) (query statement) held := by
    rw [← ends]
    exact locks_query (by simp [updates])
  refine Monitor.Obeys.bind (control [] .begin rfl rfl) (fun _ _ none => none) ?_
  rintro _ _ rfl
  refine Monitor.Obeys.attempt body fun outcome held _ => ?_
  cases outcome with
  | ok value =>
      exact Monitor.Obeys.bind (control held .commit rfl rfl) (fun _ _ none => none)
        fun _ _ none => .pure none
  | error error =>
      exact Monitor.Obeys.attempt (control held .rollback rfl rfl)
        fun _ _ none => .throw none

/-! ### The bodies -/

theorem calm_asks (command : interface.Op) (asks : Command.Asks command) : Command.Calm command := by
  cases command with
  | query statement =>
      cases statement with
      | transactionFindFirst | transactionSum => rfl
      | _ => exact asks.elim
  | _ => trivial

theorem calm_query {statement : Statement} (calm : statement.updates = none) :
    Issues Command.Calm (query statement) := issues_query calm

theorem calm_completion (context : RequestContext) (params : TransactionParams) (id : Uuid) :
    Issues Command.Calm (do
      let completedTransaction ← markCompleted id
      createCompletedEvent context params completedTransaction.id
      pure (Transactions.toResponseDto completedTransaction)) :=
  (calm_query rfl).bind fun _ => (calm_query rfl).bind fun _ => issues_pure _

theorem Locks.after_calm {next : α → Service β} (calm : Issues Command.Calm program)
    (rest : ∀ value, Locks before (next value) []) : Locks before (program >>= next) [] :=
  locks_then (settles_of_calm calm) rest

theorem locks_depositBody (context : RequestContext) (userId : Uuid)
    (dto : CreateDepositRequestDto) : Locks before (depositBody context userId dto) [] := by
  refine .after_calm (issues_getAccountOrThrow rfl) fun account => ?_
  refine .after_calm (issues_ensureOwnedByUserOrThrow _ _) fun _ => ?_
  refine .after_calm (issues_ensureActiveOrThrow _ _) fun _ => ?_
  refine .after_calm (calm_query rfl) fun created => ?_
  refine locks_then (locks_query (by simp)) fun _ => ?_
  exact locks_of_calm (calm_completion _ _ _)

theorem locks_withdrawBody (context : RequestContext) (userId : Uuid)
    (dto : CreateWithdrawRequestDto) : Locks before (withdrawBody context userId dto) [] := by
  refine .after_calm (issues_getAccountOrThrow rfl) fun account => ?_
  refine .after_calm (issues_ensureOwnedByUserOrThrow _ _) fun _ => ?_
  refine .after_calm (issues_ensureActiveOrThrow _ _) fun _ => ?_
  refine .after_calm (calm_query rfl) fun created => ?_
  refine locks_then (locks_query (by simp)) fun (count : ℕ) => ?_
  by_cases short : count ≠ 1
  · rw [if_pos short]
    exact .throw trivial
  · rw [if_neg short]
    exact locks_of_calm (calm_completion _ _ _)

theorem locks_moveMoney {dto : CreateTransferRequestDto} {text : String}
    (named : text = dto.fromAccountId ∨ text = dto.toAccountId)
    (ordered : ∀ earlier ∈ held, before earlier text) :
    (lockMonitor before).Obeys (fun _ final => final = text :: held) (moveMoney dto text) held := by
  unfold moveMoney
  by_cases debit : text = dto.fromAccountId
  · subst debit
    rw [if_pos rfl]
    have debits : (lockMonitor before).Obeys (fun _ final => final = dto.fromAccountId :: held)
        (decrementBalance dto.fromAccountId dto.amount) held := by
      refine locks_query ?_
      rintro _ ⟨⟩
      exact ordered
    refine Monitor.Obeys.bind debits (fun _ _ holds => holds) fun (count : ℕ) _ holds => ?_
    by_cases short : count ≠ 1
    · rw [if_pos short]
      exact .throw holds
    · rw [if_neg short]
      exact .pure holds
  · rw [if_neg debit]
    have credit := named.resolve_left debit
    subst credit
    refine locks_query ?_
    rintro _ ⟨⟩
    exact ordered

theorem locks_transferBody {context : RequestContext} {userId : Uuid}
    {dto : CreateTransferRequestDto}
    (ordered : before (lockOrder dto).1 (lockOrder dto).2) :
    Locks before (transferBody context userId dto) [] := by
  have names : ((lockOrder dto).1 = dto.fromAccountId ∨ (lockOrder dto).1 = dto.toAccountId) ∧
      ((lockOrder dto).2 = dto.fromAccountId ∨ (lockOrder dto).2 = dto.toAccountId) := by
    unfold lockOrder
    split <;> simp
  refine .after_calm (issues_getAccountOrThrow rfl) fun fromAccount => ?_
  refine .after_calm (issues_getAccountOrThrow rfl) fun toAccount => ?_
  refine .after_calm (issues_ensureOwnedByUserOrThrow _ _) fun _ => ?_
  refine .after_calm (issues_ensureActiveOrThrow _ _) fun _ => ?_
  refine .after_calm (issues_ensureActiveOrThrow _ _) fun _ => ?_
  refine .after_calm (calm_query rfl) fun created => ?_
  refine locks_then (locks_moveMoney names.1 (by simp)) fun _ => ?_
  refine locks_then (locks_moveMoney names.2 (by simpa using ordered)) fun _ => ?_
  exact locks_of_calm (calm_completion _ _ _)

/-! ### The calls -/

theorem settles_fallbackOrThrow (err : ServiceError) (userId : Uuid) (referenceId : String)
    (type : TransactionType) : Settles before (fallbackOrThrow err userId referenceId type) :=
  settles_of_calm (issues_fallbackOrThrow (fun _ => rfl) err userId referenceId type)

theorem settles_existing {userId : Uuid} {type : TransactionType} {referenceId : String}
    {next : Service TransactionResponseDto} (rest : Settles before next) :
    Settles before (do
      let existing ← findExisting userId type referenceId
      match ← resolveExistingOrThrow existing type with
      | some idempotentResult => pure idempotentResult
      | none => next) := by
  refine .bind (settles_of_calm (calm_query rfl)) fun existing => ?_
  refine .bind (settles_of_calm (issues_resolveExistingOrThrow existing type)) fun resolved => ?_
  cases resolved with
  | some dto => exact settles_of_calm (issues_pure dto)
  | none => exact rest

theorem settles_checked {evaluation : Service FraudDecisionResult} {release : Service Unit}
    {execution : Service TransactionResponseDto} (context : RequestContext)
    (params : TransactionParams) (evaluates : Issues Command.Calm evaluation)
    (releases : Issues Command.Calm release) (executes : Settles before execution) :
    Settles before (tryCatch
      (do
        let preFraudResult ← evaluation
        if preFraudResult.decision = .reject then
          recordRejection context params preFraudResult.reason
        else execution)
      fun err => do
        if err.code ≠ some "P2002" then release
        fallbackOrThrow err params.actorCustomerId params.referenceId params.type) := by
  refine .tryCatch (.bind (settles_of_calm evaluates) fun result => ?_) fun err => ?_
  · by_cases rejected : result.decision = .reject
    · rw [if_pos rejected]
      refine .bind (settles_transaction ?_) fun _ => settles_of_calm (issues_throw _)
      exact locks_of_calm ((calm_query rfl).bind fun _ => calm_query rfl)
    · rw [if_neg rejected]
      exact executes
  · by_cases conflict : err.code ≠ some "P2002"
    · rw [if_pos conflict]
      exact .bind (settles_of_calm releases) fun _ => settles_fallbackOrThrow _ _ _ _
    · rw [if_neg conflict]
      exact settles_fallbackOrThrow _ _ _ _

theorem settles_transferAttempts {context : RequestContext} {userId : Uuid}
    {dto : CreateTransferRequestDto} (ordered : before (lockOrder dto).1 (lockOrder dto).2)
    (remaining : ℕ) : Settles before (transferAttempts context userId dto remaining) := by
  have attempt : Settles before (transaction (transferBody context userId dto)) :=
    settles_transaction (locks_transferBody ordered)
  induction remaining with
  | zero => exact attempt
  | succ remaining induction =>
      refine .tryCatch attempt fun err => ?_
      by_cases retryable : isRetryableTransactionError err = true
      · rw [if_pos retryable]
        exact induction
      · rw [if_neg retryable]
        exact settles_of_calm (issues_throw _)

theorem settles_createDeposit (context : RequestContext) (userId : Uuid)
    (dto : CreateDepositRequestDto) : Settles before (createDeposit context userId dto) :=
  settles_existing (.tryCatch (settles_transaction (locks_depositBody context userId dto))
    fun _ => settles_fallbackOrThrow _ _ _ _)

theorem settles_createWithdraw (config : FraudConfig) (context : RequestContext) (userId : Uuid)
    (dto : CreateWithdrawRequestDto) : Settles before (createWithdraw config context userId dto) :=
  settles_existing (settles_checked context (withdrawParams userId dto)
    (issues_evaluateWithdraw calm_asks config _) (issues_releaseReservation calm_asks _ _ _)
    (settles_transaction (locks_withdrawBody context userId dto)))

theorem settles_createTransfer {config : FraudConfig} {context : RequestContext} {userId : Uuid}
    {dto : CreateTransferRequestDto} (ordered : before (lockOrder dto).1 (lockOrder dto).2) :
    Settles before (createTransfer config context userId dto) :=
  settles_existing (settles_checked context (transferParams userId dto)
    (issues_evaluateTransfer calm_asks config _) (issues_releaseReservation calm_asks _ _ _)
    (settles_transferAttempts ordered _))

theorem locks_changeStatus (change : StatusChange) (context : RequestContext) (userId : Uuid)
    (id : String) : Locks before (changeStatus change context userId id) [] := by
  refine locks_then (locks_query (by simp)) fun (count : ℕ) => ?_
  by_cases other : count ≠ 1
  · rw [if_pos other]
    refine locks_of_calm ((calm_query rfl).bind fun account => ?_)
    cases account <;> exact issues_throw _
  · rw [if_neg other]
    refine locks_of_calm ((calm_query rfl).bind fun _ => (calm_query rfl).bind fun account => ?_)
    cases account with
    | none => exact issues_throw _
    | some account => exact issues_pure _

end Programs

/-- The two texts of a transfer, in the order in which it updates their rows. -/
def Request.Orders (request : Request) (earlier text : String) : Prop :=
  ∃ dto, request.operation = .createTransfer dto ∧ lockOrder dto = (earlier, text)

/-- A call updates its rows in the order of its request. -/
theorem locks_handle (config : FraudConfig) (request : Request) :
    Locks request.Orders (handle config request) [] := by
  have responds {α : Type} {program : Service α} (respond : α → Response)
      (locks : Locks request.Orders program []) :
      Locks request.Orders (respond <$> program) [] :=
    Monitor.Obeys.map locks (fun _ _ _ => trivial) fun _ _ _ => trivial
  have settled {α : Type} {program : Service α} (settles : Settles request.Orders program) :
      Locks request.Orders program [] := settles.mono fun _ _ _ => trivial
  rcases request with ⟨userId, context, operation⟩
  cases operation with
  | createDeposit dto => exact responds _ (settled (settles_createDeposit context userId dto))
  | createWithdraw dto => exact responds _ (settled (settles_createWithdraw config context userId dto))
  | createTransfer dto => exact responds _ (settled (settles_createTransfer ⟨dto, rfl, rfl⟩))
  | getAccounts => exact responds _ (locks_of_calm ((calm_query rfl).bind fun _ => issues_pure _))
  | getAccountById id =>
      exact responds _ (locks_of_calm (issues_getAccountById (fun _ _ => rfl) userId id))
  | createAccount dto =>
      exact responds _ (locks_of_calm (issues_createAccount (fun _ _ => rfl) (fun _ => rfl)
        (calm_query rfl) context))
  | freezeAccount id | unfreezeAccount id | closeAccount id =>
      exact responds _ (locks_changeStatus _ context userId id)

/-! ## Every interleaving -/

section Runs

variable {Thread : Type} [DecidableEq Thread] [Fintype Thread] {config : FraudConfig}
  {requests : Thread → Request} {thread : Thread}

structure HoldsOnly (thread : Thread) (held : List String) (world : World Thread) : Prop where
  pending : world.server.AllPending
  rows : ∀ tx, world.server.open_ thread = some tx → ∀ id, (tx.accounts id).isSome →
    ∃ text ∈ held, Uuid.parse? text = some id

omit [DecidableEq Thread] [Fintype Thread] in
theorem holdsOnly_updated {text : String} {held : List String} {id : Uuid} {tx : Tx}
    {written : Account} (parsed : Uuid.parse? text = some written.id)
    (rows : ∀ id, (tx.accounts id).isSome → ∃ text ∈ held, Uuid.parse? text = some id)
    (locked : ((tx.writeAccount written).accounts id).isSome) :
    ∃ other ∈ text :: held, Uuid.parse? other = some id := by
  by_cases same : id = written.id
  · exact ⟨text, .head _, same ▸ parsed⟩
  · simp only [Tx.writeAccount, Function.update_of_ne same] at locked
    rcases rows id locked with ⟨other, member, parsed⟩
    exact ⟨other, .tail _ member, parsed⟩

omit [Fintype Thread] in
theorem Postgres.Server.Performs.holding {server after : Server Thread} {statement : Statement}
    {answer : Except DatabaseError statement.Result} {held : List String}
    (performs : Server.Performs server thread statement answer after) (pending : server.AllPending)
    (rows : ∀ tx, server.open_ thread = some tx → ∀ id, (tx.accounts id).isSome →
      ∃ text ∈ held, Uuid.parse? text = some id) :
    ∀ tx, after.open_ thread = some tx → ∀ id, (tx.accounts id).isSome →
      ∃ text ∈ statement.holding held, Uuid.parse? text = some id := by
  intro tx opened id locked
  cases performs with
  | same leaves =>
      rcases rows tx opened id locked with ⟨text, member, parsed⟩
      refine ⟨text, ?_, parsed⟩
      cases statement with
      | commit | rollback => exact leaves.elim
      | accountUpdate | accountUpdateMany => exact .tail _ member
      | _ => exact member
  | begins =>
      rw [Server.setOpen_open] at opened
      cases opened
      cases locked
  | commits =>
      rw [Server.commitTx_open] at opened
      cases opened
  | closes =>
      rw [Server.setOpen_open] at opened
      cases opened
  | writes change writes =>
      cases before : server.open_ thread with
      | none =>
          rw [Server.write_closed before, Server.commitTx_open] at opened
          cases opened
      | some current =>
          rw [Server.write_open before, Server.setOpen_open] at opened
          cases opened
          have own := rows current before
          cases writes with
          | accountUpdate text data named account written parsed visible applied =>
              have same := (AccountUpdate.apply_id applied).trans (pending.visible_id visible)
              exact holdsOnly_updated (same.symm ▸ parsed) own locked
          | accountUpdateMany text filter data named account written parsed visible admitted applied =>
              have same := (AccountUpdate.apply_id applied).trans (pending.visible_id visible)
              exact holdsOnly_updated (same.symm ▸ parsed) own locked
          | _ => exact own id locked

theorem lockMonitor_reflects (before : Thread → String → String → Prop) :
    Monitor.Reflects (fun thread => lockMonitor (before thread)) (machine Thread) HoldsOnly where
  acts := by
    intro thread held command choice world answer after holds _ performed
    rcases perform_cases performed with ⟨other, same⟩ | ⟨statement, reply, rfl, performs⟩
    · have unchanged : Command.holding held command = held := by
        cases command with
        | query statement => exact absurd rfl (other statement)
        | _ => rfl
      refine ⟨_, rfl, ?_⟩
      rw [unchanged]
      exact ⟨same ▸ holds.pending, same ▸ holds.rows⟩
    · exact ⟨_, rfl, performs.allPending holds.pending,
        performs.holding holds.pending holds.rows⟩
  others := by
    intro thread other held command choice world answer after different holds performed
    rcases perform_cases performed with ⟨_, same⟩ | ⟨statement, reply, rfl, performs⟩
    · exact ⟨same ▸ holds.pending, same ▸ holds.rows⟩
    · refine ⟨performs.allPending holds.pending, fun tx opened => holds.rows tx ?_⟩
      rw [← performs.other different, opened]
  environment := by
    intro thread held event world after holds happened
    have same := environment_server happened
    exact ⟨same ▸ holds.pending, same ▸ holds.rows⟩

end Runs

end BankingBackend
