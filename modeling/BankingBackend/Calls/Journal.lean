import BankingBackend.Calls.Commands
import BankingBackend.Calls.Statements
import BankingBackend.Foundation.Monitor

/-! # What a call has written

The transactions rows a call has written so far. A call begins a transaction only
while it has committed nothing, and what it ends with tells of the row it committed.
-/

namespace BankingBackend

open Foundation Foundation.Program Postgres Common Fraud Transactions Accounts

/-- The rows of the call's open transaction, and those of each of its commits. -/
@[ext] structure Journal where
  open_ : Option (List Transaction)
  commits : List (List Transaction)

namespace Journal

def empty : Journal := ⟨none, []⟩

def write (journal : Journal) (change : List Transaction → List Transaction) : Journal :=
  match journal.open_ with
  | some rows => { journal with open_ := some (change rows) }
  | none => { journal with commits := journal.commits ++ [change []] }

def rows (journal : Journal) : List Transaction :=
  journal.open_.getD [] ++ journal.commits.flatten

end Journal

namespace Postgres.Statement

def journal (journal : Journal) :
    (statement : Statement) → Except DatabaseError statement.Result → Journal
  | .begin, .ok _ => { journal with open_ := some [] }
  | .commit, .ok _ => ⟨none, journal.commits ++ [journal.open_.getD []]⟩
  | .commit, .error _ | .rollback, _ => { journal with open_ := none }
  | .transactionCreate _, .ok row => journal.write (· ++ [row])
  | .transactionUpdate id status, .ok _ => journal.write (·.map fun row =>
      if row.id = id then { row with status } else row)
  | .accountCreate _ _, .ok _ | .accountUpdate _ _, .ok _ | .eventCreate _, .ok _
  | .auditLogCreate _, .ok _ => journal.write id
  | .accountUpdateMany _ _ _, .ok count => if count = (1 : ℕ) then journal.write id else journal
  | _, _ => journal

def Tells (journal : Journal) :
    (statement : Statement) → Except DatabaseError statement.Result → Prop
  | .transactionCreate data, .ok row => ∃ id now, data.row id now = .ok row
  | .transactionUpdate id status, .ok updated => ∃ rows, journal.open_ = some rows ∧
      ∃ row ∈ rows, row.id = id ∧ updated = { row with status }
  | _, _ => True

def Creates (row : Transaction) :
    (statement : Statement) → Except DatabaseError statement.Result → Prop
  | .transactionCreate _, .ok created => row = created
  | _, _ => False

/-- A statement within a transaction that writes no transactions row. -/
def Rowless : Statement → Prop
  | .begin | .commit | .rollback | .transactionCreate _ | .transactionUpdate _ _ => False
  | _ => True

end Postgres.Statement

namespace Common.Command

def journal (journal : Journal) : (op : interface.Op) → interface.Answer op → Journal
  | .query statement, answer => statement.journal journal answer
  | _, _ => journal

def Tells (journal : Journal) : (op : interface.Op) → interface.Answer op → Prop
  | .query statement, answer => statement.Tells journal answer
  | _, _ => True

def Rowless : interface.Op → Prop
  | .query statement => statement.Rowless
  | _ => True

end Common.Command

/-- Only a call that has written nothing begins a transaction. -/
def journalMonitor : Monitor interface Journal where
  permits journal op := op = Command.query .begin → journal = .empty
  moves journal op answer following :=
    following = Command.journal journal op answer ∧ Command.Tells journal op answer

/-- The answer to a request whose row is committed. -/
def replay (row : Transaction) : Except ServiceError TransactionResponseDto :=
  if row.status = .completed then .ok (Transactions.toResponseDto row)
  else .error (.http (.badRequest (getFraudRejectionMessage row.type row.fraudReason)))

section Programs

variable {α β : Type} {program : Service α} {journal : Journal}

/-! ## Statements -/

theorem Postgres.Statement.journal_rowless (journal : Journal) {statement : Statement}
    (rowless : statement.Rowless) (answer : Except DatabaseError statement.Result) :
    statement.journal journal answer = journal ∨
      statement.journal journal answer = journal.write id := by
  cases statement with
  | accountUpdateMany text filter data =>
      cases answer with
      | error error => exact .inl rfl
      | ok count =>
          show (if _ then _ else _) = _ ∨ (if _ then _ else _) = _
          split
          · exact .inr rfl
          · exact .inl rfl
  | begin | commit | rollback | transactionCreate | transactionUpdate => exact rowless.elim
  | accountCreate | accountUpdate | eventCreate | auditLogCreate =>
      cases answer with
      | error error => exact .inl rfl
      | ok value => exact .inr rfl
  | _ => exact .inl rfl

theorem Common.Command.journal_rowless (journal : Journal) {op : interface.Op}
    (rowless : Command.Rowless op) (answer : interface.Answer op) :
    Command.journal journal op answer = journal ∨
      Command.journal journal op answer = journal.write id := by
  cases op with
  | query statement => exact Statement.journal_rowless journal rowless answer
  | _ => exact .inl rfl

theorem Common.Command.journal_asks {op : interface.Op} (asks : Command.Asks op)
    (answer : interface.Answer op) : Command.journal journal op answer = journal := by
  cases op with
  | query statement =>
      cases statement with
      | transactionFindFirst | transactionSum => rfl
      | _ => exact asks.elim
  | _ => rfl

theorem journal_query {statement : Statement} {post : Except ServiceError statement.Result →
      Journal → Prop}
    (begins : statement = .begin → journal = .empty)
    (answers : ∀ answer, statement.Tells journal answer →
      post (thrown answer) (statement.journal journal answer)) :
    journalMonitor.Obeys post (query statement) journal := by
  refine ⟨fun same => begins (by cases same; rfl), ?_⟩
  rintro answer _ ⟨rfl, tells⟩
  have holds := answers answer tells
  cases answer with
  | ok value => exact holds
  | error error => exact holds

theorem journal_rowless (holds : Journal → Prop) (rowless : Issues Command.Rowless program)
    (writes : ∀ journal, holds journal → holds (journal.write id)) (initially : holds journal) :
    journalMonitor.Obeys (fun _ => holds) program journal := by
  refine Monitor.Follows.of_only holds rowless (fun journal op rowless holds => ⟨?_, ?_⟩) initially
  · rintro rfl
    exact rowless.elim
  · rintro answer _ ⟨rfl, _⟩
    rcases Command.journal_rowless journal rowless answer with same | written
    · rwa [same]
    · rw [written]
      exact writes journal holds

theorem journal_asks (asks : Issues Command.Asks program) :
    journalMonitor.Obeys (fun _ final => final = journal) program journal := by
  refine Monitor.Follows.of_only (fun final => final = journal) asks
    (fun current op asks same => ⟨?_, ?_⟩) rfl
  · rintro rfl
    exact asks.elim
  · rintro answer _ ⟨rfl, _⟩
    rw [Command.journal_asks asks, same]

/-! ## Inside a transaction -/

/-- In a transaction that has written the rows, with nothing committed before. -/
abbrev Writing (rows : List Transaction) : Journal := ⟨some rows, []⟩

abbrev Composes (post : α → List Transaction → Prop) (program : Service α)
    (rows : List Transaction) : Prop :=
  journalMonitor.Obeys (fun result final => ∃ rows, final = Writing rows ∧
    ∀ value, result = .ok value → post value rows) program (Writing rows)

variable {rows : List Transaction} {post : α → List Transaction → Prop}

theorem composes_pure {value : α} (holds : post value rows) :
    Composes post (pure value : Service α) rows := by
  refine ⟨rows, rfl, ?_⟩
  rintro _ ⟨⟩
  exact holds

theorem composes_throw {error : ServiceError} : Composes post (throw error : Service α) rows :=
  ⟨rows, rfl, by rintro _ ⟨⟩⟩

theorem Composes.bind {next : α → Service β} {further : β → List Transaction → Prop}
    (first : Composes post program rows)
    (rest : ∀ value rows, post value rows → Composes further (next value) rows) :
    Composes further (program >>= next) rows := by
  refine Monitor.Obeys.bind first ?_ ?_
  · rintro error _ ⟨rows, rfl, _⟩
    exact ⟨rows, rfl, by rintro _ ⟨⟩⟩
  · rintro value _ ⟨rows, rfl, holds⟩
    exact rest value rows (holds value rfl)

theorem Composes.after_rowless {next : α → Service β} {further : β → List Transaction → Prop}
    (rowless : Issues Command.Rowless program)
    (rest : ∀ value, Composes further (next value) rows) :
    Composes further (program >>= next) rows := by
  have same : journalMonitor.Obeys (fun _ final => final = Writing rows) program (Writing rows) := by
    refine journal_rowless (fun final => final = Writing rows) rowless ?_ rfl
    rintro _ rfl
    rfl
  refine Monitor.Obeys.bind same ?_ ?_
  · rintro error _ rfl
    exact ⟨rows, rfl, by rintro _ ⟨⟩⟩
  · rintro value _ rfl
    exact rest value

/-- The transaction has written one completed row, and the response shows it. -/
def Posted (dto : TransactionResponseDto) (rows : List Transaction) : Prop :=
  ∃ row, rows = [row] ∧ row.status = .completed ∧ dto = Transactions.toResponseDto row

theorem composes_transactionCreate (data : TransactionData) :
    Composes (fun row rows => rows = [row] ∧ ∃ id now, data.row id now = .ok row)
      (query (.transactionCreate data)) [] := by
  refine journal_query (by rintro ⟨⟩) fun answer tells => ?_
  cases answer with
  | error error => exact ⟨[], rfl, by rintro _ ⟨⟩⟩
  | ok row =>
      refine ⟨[row], rfl, ?_⟩
      rintro _ ⟨⟩
      exact ⟨rfl, tells⟩

theorem composes_completion (context : RequestContext) (params : TransactionParams)
    (created : Transaction) :
    Composes Posted (do
      let completedTransaction ← markCompleted created.id
      createCompletedEvent context params completedTransaction.id
      pure (Transactions.toResponseDto completedTransaction)) [created] := by
  have completes : Composes (fun updated rows => rows = [updated] ∧ updated.status = .completed)
      (markCompleted created.id) [created] := by
    refine journal_query (by rintro ⟨⟩) fun answer tells => ?_
    cases answer with
    | error error => exact ⟨[created], rfl, by rintro _ ⟨⟩⟩
    | ok updated =>
        rcases tells with ⟨rows, opened, row, member, same, rfl⟩
        cases opened
        rcases List.mem_singleton.mp member with rfl
        refine ⟨[{ row with status := .completed }], ?_, ?_⟩
        · simp [Statement.journal, Journal.write]
        · rintro _ ⟨⟩
          exact ⟨rfl, rfl⟩
  refine completes.bind ?_
  rintro updated _ ⟨rfl, completed⟩
  exact .after_rowless (issues_query (by trivial)) fun _ => composes_pure ⟨updated, rfl, completed, rfl⟩

section Bodies

variable (context : RequestContext) (userId : Uuid)

theorem composes_depositBody (dto : CreateDepositRequestDto) :
    Composes Posted (depositBody context userId dto) [] := by
  refine .after_rowless (issues_getAccountOrThrow trivial) fun account => ?_
  refine .after_rowless (issues_ensureOwnedByUserOrThrow _ _) fun _ => ?_
  refine .after_rowless (issues_ensureActiveOrThrow _ _) fun _ => ?_
  refine (composes_transactionCreate _).bind ?_
  rintro created _ ⟨rfl, _⟩
  exact .after_rowless (issues_query trivial) fun _ => composes_completion _ _ _

theorem composes_withdrawBody (dto : CreateWithdrawRequestDto) :
    Composes Posted (withdrawBody context userId dto) [] := by
  refine .after_rowless (issues_getAccountOrThrow trivial) fun account => ?_
  refine .after_rowless (issues_ensureOwnedByUserOrThrow _ _) fun _ => ?_
  refine .after_rowless (issues_ensureActiveOrThrow _ _) fun _ => ?_
  refine (composes_transactionCreate _).bind ?_
  rintro created _ ⟨rfl, _⟩
  refine .after_rowless (issues_query trivial) fun (count : ℕ) => ?_
  by_cases short : count ≠ 1
  · rw [if_pos short]
    exact composes_throw
  · rw [if_neg short]
    exact composes_completion _ _ _

theorem composes_transferBody (dto : CreateTransferRequestDto) :
    Composes Posted (transferBody context userId dto) [] := by
  have moves (accountId : String) : Issues Command.Rowless (moveMoney dto accountId) :=
    issues_moveMoney (fun _ _ _ => trivial) fun _ _ => trivial
  refine .after_rowless (issues_getAccountOrThrow trivial) fun fromAccount => ?_
  refine .after_rowless (issues_getAccountOrThrow trivial) fun toAccount => ?_
  refine .after_rowless (issues_ensureOwnedByUserOrThrow _ _) fun _ => ?_
  refine .after_rowless (issues_ensureActiveOrThrow _ _) fun _ => ?_
  refine .after_rowless (issues_ensureActiveOrThrow _ _) fun _ => ?_
  refine (composes_transactionCreate _).bind ?_
  rintro created _ ⟨rfl, _⟩
  refine .after_rowless (moves _) fun _ => .after_rowless (moves _) fun _ => ?_
  exact composes_completion _ _ _

end Bodies

/-! ## Calls -/

/-- Nothing is open, and a committed row is the one the call has ended with. -/
def Accounted (result : Except ServiceError TransactionResponseDto) (journal : Journal) : Prop :=
  journal.open_ = none ∧ ∀ rows ∈ journal.commits, ∀ row ∈ rows, result = replay row

theorem accounted_empty (result : Except ServiceError TransactionResponseDto) :
    Accounted result .empty := ⟨rfl, fun _ absurd => by cases absurd⟩

def LeavesJournal {α : Type} (succeeds : α → Journal → Prop) :
    Except ServiceError α → Journal → Prop
  | .ok value, final => succeeds value final
  | .error _, final => final = .empty

theorem journal_transaction {program : Service α} {post : α → List Transaction → Prop}
    (composes : Composes post program []) :
    journalMonitor.Obeys
      (LeavesJournal fun value final => ∃ rows, final = ⟨none, [rows]⟩ ∧ post value rows)
      (transaction program) .empty := by
  have begins : journalMonitor.Obeys (LeavesJournal fun _ final => final = Writing [])
      (query .begin) .empty := by
    refine journal_query (fun _ => rfl) fun answer _ => ?_
    cases answer <;> exact rfl
  refine Monitor.Obeys.bind begins (fun _ _ empty => empty) ?_
  rintro _ _ rfl
  refine Monitor.Obeys.attempt composes ?_
  rintro outcome _ ⟨rows, rfl, holds⟩
  cases outcome with
  | ok value =>
      have commits : journalMonitor.Obeys (LeavesJournal fun _ final => final = ⟨none, [rows]⟩)
          (query .commit) (Writing rows) := by
        refine journal_query (by rintro ⟨⟩) fun answer _ => ?_
        cases answer <;> exact rfl
      refine Monitor.Obeys.bind commits (fun _ _ empty => empty) ?_
      rintro _ _ rfl
      exact .pure ⟨rows, rfl, holds value rfl⟩
  | error error =>
      have rolls : journalMonitor.Obeys (fun _ final => final = .empty) (query .rollback)
          (Writing rows) := by
        refine journal_query (by rintro ⟨⟩) fun answer _ => ?_
        exact rfl
      refine Monitor.Obeys.attempt rolls ?_
      rintro _ _ rfl
      exact .throw rfl

theorem journal_moneyTransaction {body : Service TransactionResponseDto}
    (composes : Composes Posted body []) :
    journalMonitor.Obeys (fun result final => Accounted result final ∧
      ∀ error, result = .error error → final = .empty) (transaction body) .empty := by
  refine (journal_transaction composes).mono fun result final holds => ?_
  cases result with
  | error error =>
      subst holds
      exact ⟨accounted_empty _, fun _ _ => rfl⟩
  | ok dto =>
      rcases holds with ⟨_, rfl, row, rfl, completed, rfl⟩
      refine ⟨⟨rfl, ?_⟩, by rintro _ ⟨⟩⟩
      simp [replay, completed]

/-- The committed rejection is the one that is thrown. -/
theorem journal_recordRejection (context : RequestContext) (params : TransactionParams)
    (reason : Option String) :
    journalMonitor.Obeys (fun result final => Accounted result final ∧
      ∀ error, result = .error error → final = .empty ∨ ∃ exception, error = .http exception)
      (recordRejection context params reason) .empty := by
  have composes : Composes (fun _ rows => ∃ row, rows = [row] ∧
        ∃ id now, (params.data .rejected (some .reject) reason).row id now = .ok row) (do
      let rejectedTransaction ← createRejectedTransaction params reason
      createFailedFraudEvent context params rejectedTransaction.id reason) [] := by
    refine (composes_transactionCreate _).bind ?_
    rintro row _ ⟨rfl, valid⟩
    refine journal_query (by rintro ⟨⟩) fun answer _ => ⟨[row], ?_, fun _ _ => ⟨row, rfl, valid⟩⟩
    cases answer <;> rfl
  refine Monitor.Obeys.bind (journal_transaction composes) ?_ ?_
  · rintro error _ rfl
    exact ⟨accounted_empty _, fun _ _ => .inl rfl⟩
  · rintro _ _ ⟨_, rfl, row, rfl, id, now, valid⟩
    rcases TransactionData.row_ok valid with ⟨_, _, _, _, _, _, rfl⟩
    refine .throw ⟨⟨rfl, ?_⟩, ?_⟩
    · simp [replay, TransactionParams.data]
    · rintro _ ⟨⟩
      exact .inr ⟨_, rfl⟩

theorem journal_request {command : Command} (other : ∀ statement, command ≠ .query statement) :
    journalMonitor.Obeys (fun result final => (∃ answer, result = .ok answer) ∧ final = journal)
      (request command) journal := by
  refine ⟨fun same => absurd same (other _), ?_⟩
  rintro answer _ ⟨rfl, _⟩
  refine ⟨⟨answer, rfl⟩, ?_⟩
  cases command with
  | query statement => exact absurd rfl (other statement)
  | _ => rfl

theorem journal_releaseReservation (rule : DailyLimitRule) (userId : Uuid) (referenceId : String) :
    journalMonitor.Obeys (fun result final => result = .ok () ∧ final = journal)
      (rule.releaseReservation userId referenceId) journal := by
  refine Monitor.Obeys.bind (journal_request (by rintro _ ⟨⟩)) (by rintro _ _ ⟨⟨_, ⟨⟩⟩, _⟩) ?_
  rintro now _ ⟨_, rfl⟩
  refine Monitor.Obeys.bind (journal_request (by rintro _ ⟨⟩)) (by rintro _ _ ⟨⟨_, ⟨⟩⟩, _⟩) ?_
  rintro _ _ ⟨_, rfl⟩
  exact .pure ⟨rfl, rfl⟩

theorem fallbackOrThrow_http (exception : HttpException) (userId : Uuid) (referenceId : String)
    (type : TransactionType) :
    fallbackOrThrow (.http exception) userId referenceId type = throw (.http exception) := by
  unfold fallbackOrThrow resolveP2002Fallback
  rw [if_pos (by rintro ⟨⟩)]
  rfl

theorem journal_fallbackOrThrow {err : ServiceError} {userId : Uuid} {referenceId : String}
    {type : TransactionType} (accounted : Accounted (.error err) journal)
    (decided : journal = .empty ∨ ∃ exception, err = .http exception) :
    journalMonitor.Obeys Accounted (fallbackOrThrow err userId referenceId type) journal := by
  rcases decided with rfl | ⟨exception, rfl⟩
  · refine (journal_asks
      (issues_fallbackOrThrow (fun _ => trivial) err userId referenceId type)).mono ?_
    rintro result _ rfl
    exact accounted_empty result
  · rw [fallbackOrThrow_http]
    exact .throw accounted

theorem journal_existing {userId : Uuid} {type : TransactionType} {referenceId : String}
    {next : Service TransactionResponseDto} (rest : journalMonitor.Obeys Accounted next .empty) :
    journalMonitor.Obeys Accounted (do
      let existing ← findExisting userId type referenceId
      match ← resolveExistingOrThrow existing type with
      | some idempotentResult => pure idempotentResult
      | none => next) .empty := by
  have found : Issues Command.Asks (findExisting userId type referenceId) := issues_query trivial
  refine Monitor.Obeys.bind (journal_asks found) ?_ ?_
  · rintro error _ rfl
    exact accounted_empty _
  · rintro existing _ rfl
    refine Monitor.Obeys.bind (journal_asks (issues_resolveExistingOrThrow existing type)) ?_ ?_
    · rintro error _ rfl
      exact accounted_empty _
    · rintro resolved _ rfl
      cases resolved with
      | some dto => exact .pure (accounted_empty _)
      | none => exact rest

theorem journal_checked {evaluation : Service FraudDecisionResult} {rule : DailyLimitRule}
    {userId : Uuid} {referenceId : String} {execution : Service TransactionResponseDto}
    (context : RequestContext) (params : TransactionParams)
    (evaluates : Issues Command.Asks evaluation)
    (executes : journalMonitor.Obeys (fun result final => Accounted result final ∧
      ∀ error, result = .error error → final = .empty) execution .empty) :
    journalMonitor.Obeys Accounted (tryCatch
      (do
        let preFraudResult ← evaluation
        if preFraudResult.decision = .reject then
          recordRejection context params preFraudResult.reason
        else execution)
      fun err => do
        if err.code ≠ some "P2002" then rule.releaseReservation userId referenceId
        fallbackOrThrow err params.actorCustomerId params.referenceId params.type) .empty := by
  have decides : journalMonitor.Obeys (fun result final => Accounted result final ∧
      ∀ error, result = .error error → final = .empty ∨ ∃ exception, error = .http exception) (do
        let preFraudResult ← evaluation
        if preFraudResult.decision = .reject then
          recordRejection context params preFraudResult.reason
        else execution) .empty := by
    refine Monitor.Obeys.bind (journal_asks evaluates) ?_ ?_
    · rintro error _ rfl
      exact ⟨accounted_empty _, fun _ _ => .inl rfl⟩
    · rintro result _ rfl
      by_cases rejected : result.decision = .reject
      · rw [if_pos rejected]
        exact journal_recordRejection context params result.reason
      · rw [if_neg rejected]
        exact executes.mono fun _ _ holds => ⟨holds.1, fun error ended => .inl (holds.2 error ended)⟩
  refine Monitor.Obeys.tryCatch decides (fun _ _ holds => holds.1) fun err final holds => ?_
  have fallback : journalMonitor.Obeys Accounted
      (fallbackOrThrow err params.actorCustomerId params.referenceId params.type) final :=
    journal_fallbackOrThrow holds.1 (holds.2 err rfl)
  by_cases conflict : err.code ≠ some "P2002"
  · rw [if_pos conflict]
    refine Monitor.Obeys.bind (journal_releaseReservation rule userId referenceId)
      (by rintro _ _ ⟨⟨⟩, _⟩) ?_
    rintro _ _ ⟨_, rfl⟩
    exact fallback
  · rw [if_neg conflict]
    exact fallback

theorem journal_transferAttempts (context : RequestContext) (userId : Uuid)
    (dto : CreateTransferRequestDto) (remaining : ℕ) :
    journalMonitor.Obeys (fun result final => Accounted result final ∧
      ∀ error, result = .error error → final = .empty)
      (transferAttempts context userId dto remaining) .empty := by
  have attempt := journal_moneyTransaction (composes_transferBody context userId dto)
  induction remaining with
  | zero => exact attempt
  | succ remaining induction =>
      refine Monitor.Obeys.tryCatch attempt (fun _ _ holds => holds) fun err final holds => ?_
      rw [holds.2 err rfl]
      by_cases retryable : isRetryableTransactionError err = true
      · rw [if_pos retryable]
        exact induction
      · rw [if_neg retryable]
        exact .throw ⟨accounted_empty _, fun _ _ => rfl⟩

theorem journal_createDeposit (context : RequestContext) (userId : Uuid)
    (dto : CreateDepositRequestDto) :
    journalMonitor.Obeys Accounted (createDeposit context userId dto) .empty :=
  journal_existing (.tryCatch (journal_moneyTransaction (composes_depositBody context userId dto))
    (fun _ _ holds => holds.1) fun err _ holds =>
      journal_fallbackOrThrow holds.1 (.inl (holds.2 err rfl)))

theorem journal_createWithdraw (config : FraudConfig) (context : RequestContext) (userId : Uuid)
    (dto : CreateWithdrawRequestDto) :
    journalMonitor.Obeys Accounted (createWithdraw config context userId dto) .empty :=
  journal_existing (journal_checked context (withdrawParams userId dto)
    (issues_evaluateWithdraw (fun _ asks => asks) config _)
    (journal_moneyTransaction (composes_withdrawBody context userId dto)))

theorem journal_createTransfer (config : FraudConfig) (context : RequestContext) (userId : Uuid)
    (dto : CreateTransferRequestDto) :
    journalMonitor.Obeys Accounted (createTransfer config context userId dto) .empty :=
  journal_existing (journal_checked context (transferParams userId dto)
    (issues_evaluateTransfer (fun _ asks => asks) config _)
    (journal_transferAttempts context userId dto _))

/-- What a call ends with tells of every row it has committed. -/
def AccountedCall (result : CallResult) (journal : Journal) : Prop :=
  ∀ rows ∈ journal.commits, ∀ row ∈ rows, result = .transaction <$> replay row

theorem journal_handle (config : FraudConfig) (request : Request) :
    journalMonitor.Obeys AccountedCall (handle config request) .empty := by
  have responds {program : Service TransactionResponseDto}
      (obeys : journalMonitor.Obeys Accounted program .empty) :
      journalMonitor.Obeys AccountedCall (Response.transaction <$> program) .empty := by
    refine Monitor.Obeys.map obeys ?_ ?_
    · intro error final accounted rows member row rowMember
      rw [← accounted.2 rows member row rowMember]
      rfl
    · intro dto final accounted rows member row rowMember
      rw [← accounted.2 rows member row rowMember]
      rfl
  have rowless {α : Type} {program : Service α} (rowless : Issues Command.Rowless program)
      (respond : α → Response) : journalMonitor.Obeys AccountedCall (respond <$> program) .empty := by
    have blank : journalMonitor.Obeys (fun _ final => final.open_ = none ∧
        ∀ rows ∈ final.commits, rows = []) program .empty := by
      refine journal_rowless (fun journal => journal.open_ = none ∧
        ∀ rows ∈ journal.commits, rows = []) rowless ?_ ⟨rfl, fun _ absurd => by cases absurd⟩
      rintro ⟨_, commits⟩ ⟨rfl, blank⟩
      refine ⟨rfl, fun rows member => ?_⟩
      rcases List.mem_append.mp member with old | new
      · exact blank rows old
      · exact List.mem_singleton.mp new
    have accounted (result : CallResult) (final : Journal) (blank : final.open_ = none ∧
        ∀ rows ∈ final.commits, rows = []) : AccountedCall result final := by
      intro rows member row rowMember
      rw [blank.2 rows member] at rowMember
      cases rowMember
    exact Monitor.Obeys.map blank (fun _ _ blank => accounted _ _ blank)
      fun _ _ blank => accounted _ _ blank
  rcases request with ⟨userId, context, operation⟩
  cases operation with
  | createDeposit dto => exact responds (journal_createDeposit context userId dto)
  | createWithdraw dto => exact responds (journal_createWithdraw config context userId dto)
  | createTransfer dto => exact responds (journal_createTransfer config context userId dto)
  | getAccounts =>
      exact rowless ((issues_query (by trivial)).bind fun _ => issues_pure _) _
  | getAccountById id => exact rowless (issues_getAccountById (fun _ _ => trivial) userId id) _
  | createAccount dto =>
      exact rowless (issues_createAccount (fun _ _ => trivial) (fun _ => trivial)
        (issues_query trivial) context) _
  | freezeAccount id | unfreezeAccount id | closeAccount id =>
      exact rowless (issues_changeStatus (fun _ _ => trivial) (fun _ => trivial)
        (issues_query trivial)) _

end Programs

end BankingBackend
