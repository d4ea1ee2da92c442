import BankingBackend.Calls.Lifecycle

/-! # A request for an account

Its three statements: it looks for an open account, inserts one and records it. What
it goes on with after each answer, and what the database answers.
-/

namespace BankingBackend

open Foundation Foundation.Program Postgres Common Fraud Transactions Accounts

/-! ## What remains of the call -/

section Programs

variable (context : RequestContext) (userId : Uuid) (currency : Currency) (account : Account)

def existsError : ServiceError := .http (.conflict (accountExistsMessage currency))

def openAccounts : AccountFilter :=
  { customerId := some userId, currency := some currency, status := some (.differs .closed) }

def inserting : Program interface CallResult :=
  (Response.account <$> (do
    let account ← tryCatch (query (.accountCreate userId currency)) fun err =>
      if err.code = some "P2002" then throw (existsError currency) else throw err
    recordAudit context userId .accountCreate account.id.toText
    pure (Accounts.toResponseDto account) : Service AccountResponseDto)).run

def auditing : Program interface CallResult :=
  (Response.account <$> (do
    recordAudit context userId .accountCreate account.id.toText
    pure (Accounts.toResponseDto account) : Service AccountResponseDto)).run

theorem createAccount_run (config : FraudConfig) :
    ∃ next, (handle config ⟨userId, context, .createAccount ⟨currency⟩⟩).run =
        .call (.query (.accountFindFirst none (openAccounts userId currency))) next ∧
      next (.ok none) = inserting context userId currency ∧
      ∀ account, next (.ok (some account)) = .done (.error (existsError currency)) :=
  ⟨_, rfl, rfl, fun _ => rfl⟩

theorem inserting_run :
    ∃ next, inserting context userId currency =
        .call (.query (.accountCreate userId currency)) next ∧
      (∀ account, next (.ok account) = auditing context userId account) ∧
      next (.error .uniqueViolation) = .done (.error (existsError currency)) :=
  ⟨_, rfl, fun _ => rfl, rfl⟩

theorem auditing_run :
    ∃ data next, auditing context userId account = .call (.query (.auditLogCreate data)) next ∧
      data.entityId = account.id.toText ∧
      next (.ok ()) = .done (.ok (.account (Accounts.toResponseDto account))) :=
  ⟨_, _, rfl, rfl, rfl⟩

end Programs

/-! ## What the database answers -/

section Answers

variable {Thread : Type} [DecidableEq Thread] [Fintype Thread] {thread : Thread}
  {server after : Server Thread} {newId : Uuid} {now : ℕ} {userId : Uuid} {currency : Currency}

theorem find?_openAccounts (userId : Uuid) (currency : Currency) (database : Database) :
    (database.accounts.find? (openAccounts userId currency).admits).isSome =
      Server.hasOpenAccount database userId currency := by
  have same : (openAccounts userId currency).admits = fun account =>
      account.customerId == userId && account.currency == currency && account.status != .closed := by
    funext account
    rw [Bool.eq_iff_iff]
    simp only [openAccounts, AccountFilter.admits, StatusFilter.admits, Option.all_some,
      Option.all_none, Bool.and_true, Bool.and_eq_true, beq_iff_eq, @eq_comm _ userId,
      @eq_comm _ currency]
  rw [List.isSome_find?, same]
  rfl

/-- The insertion conflicts with an open account, or opens one. -/
theorem respond_accountCreate {answer : Except DatabaseError Account}
    (closed : server.open_ thread = none)
    (responded : server.respond thread newId now (.accountCreate userId currency) =
      some (answer, after)) :
    (Server.hasOpenAccount server.database userId currency = true ∧
        answer = .error .uniqueViolation ∧ after = server) ∨
      Server.hasOpenAccount server.database userId currency = false ∧ ∃ account,
        answer = .ok account ∧ server.database.account? account.id = none ∧
        account.standing = ⟨userId, currency, .active⟩ ∧
        after = server.commitTx thread (Tx.empty.createAccount account) := by
  simp only [Server.respond, closed] at responded
  split at responded
  · cases responded
  · rename_i unused
    split at responded
    · rename_i open_
      cases responded
      exact .inl ⟨open_, rfl, rfl⟩
    · rename_i open_
      cases responded
      rw [Server.write_closed closed]
      exact .inr ⟨by simpa using open_, _, rfl, by simpa using unused, rfl, rfl⟩

theorem exists_respond_accountCreate (closed : server.open_ thread = none)
    (unused : server.database.account? newId = none) :
    ∃ answer after, server.respond thread newId now (.accountCreate userId currency) =
      some (answer, after) := by
  simp only [Server.respond, closed, unused, Option.isSome_none, Bool.false_eq_true, if_false]
  split
  · exact ⟨_, _, rfl⟩
  · exact ⟨_, _, rfl⟩

theorem exists_respond_auditLogCreate (server : Server Thread) (thread : Thread) (newId : Uuid)
    (now : ℕ) (data : AuditLogData) :
    ∃ answer after, server.respond thread newId now (.auditLogCreate data) =
      some (answer, after) := by
  simp only [Server.respond]
  split
  · exact ⟨_, _, rfl⟩
  · exact ⟨_, _, rfl⟩

theorem respond_auditLogCreate {data : AuditLogData} {id : Uuid} {answer : Except DatabaseError Unit}
    (closed : server.open_ thread = none) (named : data.entityId = id.toText)
    (responded : server.respond thread newId now (.auditLogCreate data) = some (answer, after)) :
    answer = .ok () ∧ ∀ id, after.database.standing? id = server.database.standing? id := by
  simp only [Server.respond, named, Uuid.parse?_toText] at responded
  cases responded
  rw [Server.write_closed closed]
  refine ⟨rfl, fun id => ?_⟩
  unfold Database.standing?
  rw [Server.commitTx_database, holdings_unwritten rfl rfl]

end Answers

/-! ## Its steps -/

section Steps

variable {Thread : Type} [DecidableEq Thread] [Fintype Thread] {thread : Thread}
  {current following : Configuration Thread} {statement : Statement}
  {next : Except DatabaseError statement.Result → Program interface CallResult}
  (program : current.program thread = .call (.query statement) next)
include program

theorem step_query {choice : Choice} (succeeds : choice.failure = none)
    (taken : step current (.perform thread choice) = some following) :
    ∃ answer, current.shared.server.respond thread choice.newId current.shared.now statement =
        some (answer, following.shared.server) ∧ following.program thread = next answer := by
  rcases Machine.step_perform taken with ⟨op, rest, answer, shared, called, performed, rfl⟩
  rw [program] at called
  cases called
  rcases Option.map_eq_some_iff.mp performed with ⟨⟨reply, server⟩, done, equal⟩
  cases equal
  rw [succeeds] at done
  exact ⟨answer, done, Function.update_self ..⟩

theorem step_of_respond {newId : Uuid} {answer : Except DatabaseError statement.Result}
    {server : Server Thread}
    (responded : current.shared.server.respond thread newId current.shared.now statement =
      some (answer, server)) :
    ∃ following, step current (.perform thread { newId }) = some following := by
  have performed : (machine Thread).perform thread (.query statement) { newId } current.shared =
      some (answer, { current.shared with server }) := by
    simp only [machine, World.perform, Server.perform, responded]
    rfl
  exact ⟨_, Machine.step_of_perform program performed⟩

end Steps

end BankingBackend
