import BankingBackend.Calls.AccountHistory
import BankingBackend.Foundation.Monitor

/-! # Keeping the books of the accounts

A call that has created an account or set its status owes an audit log. How far each
call is follows from its own statements and is what the log of the database says.
-/

namespace BankingBackend

open Foundation Foundation.Program Postgres Common Fraud Transactions Accounts

/-! ## Stages of a call -/

inductive Stage
  | before
  | owing (entry : AccountEntry)
  | audited (entry : AccountEntry)

def Postgres.AuditLogData.entry? (data : AuditLogData) : Option AccountEntry :=
  (Uuid.parse? data.entityId).map fun entityId => ⟨data.action, data.customerId, entityId⟩

/-- An account has been created, or its status has been set. -/
def Postgres.Statement.Alters :
    (statement : Statement) → Except DatabaseError statement.Result → Prop
  | .accountCreate _ _, .ok _ => True
  | .accountUpdateMany _ _ (.setStatus _), .ok count => count = 1
  | _, _ => False

namespace Stage

def Permits : Stage → Command → Prop
  | .before, .query (.auditLogCreate _) => False
  | .before, _ => True
  | .owing entry, .query (.auditLogCreate data) => data.entry? = some entry
  | .owing _, _ => False
  | .audited entry, .query (.accountFindFirst (some text) filter) =>
      Uuid.parse? text = some entry.entityId ∧ filter = { customerId := some entry.customerId }
  | .audited _, _ => False

inductive Moves : Stage → (command : Command) → command.Answer → Stage → Prop
  | creates (customerId : Uuid) (currency : Currency) (account : Account) :
      Moves .before (.query (.accountCreate customerId currency)) (.ok account)
        (.owing ⟨.accountCreate, customerId, account.id⟩)
  | sets (text : String) (filter : AccountFilter) (status : AccountStatus) (id customerId : Uuid)
      (parsed : Uuid.parse? text = some id) (owned : filter.customerId = some customerId) :
      Moves .before (.query (.accountUpdateMany text filter (.setStatus status))) (.ok 1)
        (.owing ⟨actionOf status, customerId, id⟩)
  | asks (command : Command) (answer : command.Answer)
      (other : ∀ statement, command ≠ .query statement) : Moves .before command answer .before
  | keeps (statement : Statement) (answer : Except DatabaseError statement.Result)
      (keeps : ¬statement.Alters answer) : Moves .before (.query statement) answer .before
  | audits (entry : AccountEntry) (data : AuditLogData) :
      Moves (.owing entry) (.query (.auditLogCreate data)) (.ok ()) (.audited entry)
  | finds (entry : AccountEntry) (text : Option String) (filter : AccountFilter)
      (account : Account) :
      Moves (.audited entry) (.query (.accountFindFirst text filter)) (.ok (some account))
        (.audited entry)

end Stage

/-- The audit log is written right after the change, and the account is found again. -/
def bookkeeping : Monitor interface Stage where
  permits := Stage.Permits
  moves := Stage.Moves

/-- No call ends while it owes an audit log, and one that fails has changed nothing. -/
def Balanced {α : Type} : Except ServiceError α → Stage → Prop
  | .ok _, stage => ∀ entry, stage ≠ .owing entry
  | .error _, stage => stage = .before

section Walk

variable {α β : Type} {stage : Stage}

theorem balanced_throw (error : ServiceError) :
    bookkeeping.Obeys Balanced (throw error : Service α) .before := Monitor.Obeys.throw rfl

theorem obeys_query {statement : Statement} {next : statement.Result → Service β}
    {post : Except ServiceError β → Stage → Prop}
    (permits : Stage.Permits stage (.query statement))
    (fails : ∀ error following, Stage.Moves stage (.query statement) (.error error) following →
      post (.error (.database error)) following)
    (rest : ∀ value following, Stage.Moves stage (.query statement) (.ok value) following →
      bookkeeping.Obeys post (next value) following) :
    bookkeeping.Obeys post (query statement >>= next) stage := by
  refine ⟨permits, fun answer following moves => ?_⟩
  cases answer with
  | ok value => exact rest value following moves
  | error error => exact fails error following moves

theorem Stage.Moves.unaltered {statement : Statement}
    {answer : Except DatabaseError statement.Result} {following : Stage}
    (moves : Stage.Moves .before (.query statement) answer following)
    (keeps : ¬statement.Alters answer) : following = .before := by
  cases moves with
  | creates => exact absurd trivial keeps
  | sets => exact absurd rfl keeps
  | asks _ _ other => exact absurd rfl (other statement)
  | keeps => rfl

theorem obeys_unaltered {statement : Statement} {next : statement.Result → Service β}
    (permits : Stage.Permits .before (.query statement))
    (keeps : ∀ answer, ¬statement.Alters answer)
    (rest : ∀ value, bookkeeping.Obeys Balanced (next value) .before) :
    bookkeeping.Obeys Balanced (query statement >>= next) .before := by
  refine obeys_query permits (fun error following moves => ?_) fun value following moves => ?_
  · exact moves.unaltered (keeps _)
  · rw [moves.unaltered (keeps _)]
    exact rest value

theorem obeys_recordAudit {context : RequestContext} {userId id : Uuid} {action : AuditAction}
    {text : String} {next : Unit → Service β} (parsed : Uuid.parse? text = some id)
    (rest : bookkeeping.Obeys Balanced (next ()) (.audited ⟨action, userId, id⟩)) :
    bookkeeping.Obeys Balanced (recordAudit context userId action text >>= next)
      (.owing ⟨action, userId, id⟩) := by
  refine obeys_query ?_ (fun error following moves => ?_) fun value following moves => ?_
  · show (Uuid.parse? text).map _ = _
    rw [parsed]
    rfl
  · cases moves
  · cases moves
    exact rest

/-! ### The calls -/

theorem obeys_getAccounts (userId : Uuid) :
    bookkeeping.Obeys Balanced (getAccounts userId) .before :=
  obeys_unaltered trivial (fun _ => id) fun _ => .pure (by rintro _ ⟨⟩)

theorem obeys_getAccountById (userId : Uuid) (id : String) :
    bookkeeping.Obeys Balanced (getAccountById userId id) .before := by
  refine obeys_unaltered trivial (fun _ => False.elim) fun found => ?_
  cases found with
  | some account => exact .pure (by rintro _ ⟨⟩)
  | none => exact balanced_throw _

def Created (userId : Uuid) : Except ServiceError Account → Stage → Prop
  | .ok account, stage => stage = .owing ⟨.accountCreate, userId, account.id⟩
  | .error _, stage => stage = .before

theorem obeys_accountCreate (userId : Uuid) (currency : Currency) :
    bookkeeping.Obeys (Created userId) (query (.accountCreate userId currency)) .before := by
  refine ⟨trivial, fun answer following moves => ?_⟩
  cases answer with
  | error error => exact moves.unaltered id
  | ok account =>
      cases moves with
      | creates => rfl
      | asks _ _ other => exact absurd rfl (other _)
      | keeps _ _ keeps => exact absurd trivial keeps

theorem obeys_createAccount (context : RequestContext) (userId : Uuid)
    (dto : CreateAccountRequestDto) :
    bookkeeping.Obeys Balanced (createAccount context userId dto) .before := by
  refine obeys_unaltered trivial (fun _ => id) fun found => ?_
  cases found with
  | some account => exact balanced_throw _
  | none =>
      have created : bookkeeping.Obeys (Created userId)
          (tryCatch (query (.accountCreate userId dto.currency)) fun err =>
            if err.code = some "P2002" then
              throw (.http (.conflict (accountExistsMessage dto.currency)))
            else throw err) .before := by
        refine (obeys_accountCreate userId dto.currency).tryCatch (fun _ _ holds => holds) ?_
        rintro error _ rfl
        split <;> exact .throw rfl
      refine created.bind (fun _ _ before => before) ?_
      rintro account _ rfl
      exact obeys_recordAudit (Uuid.parse?_toText _) (.pure (by rintro _ ⟨⟩))

theorem obeys_changeStatus {change : StatusChange} (named : change.action = actionOf change.status)
    (context : RequestContext) (userId : Uuid) (text : String) :
    bookkeeping.Obeys Balanced (changeStatus change context userId text) .before := by
  refine obeys_query trivial (fun error following moves => moves.unaltered id)
    fun (count : ℕ) following moves => ?_
  by_cases other : count ≠ 1
  · rw [moves.unaltered other, if_pos other]
    refine obeys_unaltered trivial (fun _ => id) fun found => ?_
    cases found <;> exact balanced_throw _
  · rw [if_neg other]
    cases moves with
    | asks _ _ other => exact absurd rfl (other _)
    | keeps _ _ keeps => exact absurd (not_not.mp other) keeps
    | sets _ _ _ id customerId parsed owned =>
        cases owned
        rw [← named]
        refine obeys_recordAudit parsed (obeys_query ⟨parsed, rfl⟩ ?_ ?_)
        · rintro error _ ⟨⟩
        · rintro _ _ ⟨⟩
          exact .pure (by rintro _ ⟨⟩)

/-! ### Money calls -/

theorem Postgres.Statement.KeepsStanding.unaltered {statement : Statement}
    (keeps : statement.KeepsStanding) (answer : Except DatabaseError statement.Result) :
    ¬statement.Alters answer := by
  cases statement with
  | accountCreate => exact keeps.elim
  | accountUpdateMany text filter data =>
      cases data with
      | setStatus status => exact keeps.elim
      | _ => exact id
  | _ => exact id

/-- A call that moves money creates no account, sets no status and writes no audit log. -/
theorem Issued.keepsStanding {request : Request} {params : TransactionParams}
    (asks : request.params? = some params) {statement : Statement}
    (issued : Issued request (.query statement)) :
    statement.KeepsStanding ∧ ∀ data, statement ≠ .auditLogCreate data := by
  cases issued with
  | asks permitted =>
      cases statement with
      | transactionFindFirst | transactionSum => exact ⟨trivial, by rintro _ ⟨⟩⟩
      | _ => exact permitted.elim
  | control outer =>
      cases statement with
      | begin | commit | rollback => exact ⟨trivial, by rintro _ ⟨⟩⟩
      | _ => exact absurd trivial outer
  | money money =>
      cases statement with
      | accountUpdate text data =>
          cases data with
          | setStatus status => exact money.elim
          | _ => exact ⟨trivial, by rintro _ ⟨⟩⟩
      | accountUpdateMany text filter data =>
          cases data with
          | setStatus status => exact money.elim
          | _ => exact ⟨trivial, by rintro _ ⟨⟩⟩
      | accountFindUnique | transactionCreate | transactionUpdate =>
          exact ⟨trivial, by rintro _ ⟨⟩⟩
      | _ => exact money.elim
  | announces | finds | lists => exact ⟨trivial, by rintro _ ⟨⟩⟩
  | creates creation =>
      rw [Request.params?, creation] at asks
      cases asks
  | changes change =>
      rw [Request.change?_params? change] at asks
      cases asks
  | audits data moneyless =>
      rw [moneyless] at asks
      cases asks

theorem obeys_money (config : FraudConfig) {request : Request} {params : TransactionParams}
    (asks : request.params? = some params) :
    bookkeeping.Obeys Balanced (handle config request) .before := by
  have stays : bookkeeping.Follows (fun _ stage => stage = .before)
      (handle config request).run .before := by
    refine Monitor.Follows.of_only _ (issued_handle config request) ?_ rfl
    rintro _ command issued rfl
    cases command with
    | query statement =>
        rcases issued.keepsStanding asks with ⟨keeps, other⟩
        refine ⟨?_, fun answer following moves => moves.unaltered (keeps.unaltered answer)⟩
        cases statement with
        | auditLogCreate data => exact absurd rfl (other data)
        | _ => trivial
    | _ =>
        refine ⟨trivial, ?_⟩
        rintro answer following ⟨⟩
        rfl
  refine stays.mono fun result final before => ?_
  subst before
  cases result with
  | ok value => rintro _ ⟨⟩
  | error error => rfl

theorem obeys_handle (config : FraudConfig) (request : Request) :
    bookkeeping.Obeys Balanced (handle config request) .before := by
  have responds {α : Type} {program : Service α}
      (obeys : bookkeeping.Obeys Balanced program .before) (respond : α → Response) :
      bookkeeping.Obeys Balanced (respond <$> program) .before :=
    obeys.map (fun _ _ failed => failed) fun _ _ settled => settled
  rcases request with ⟨userId, context, operation⟩
  cases operation with
  | createDeposit | createWithdraw | createTransfer => exact obeys_money config rfl
  | getAccounts => exact responds (obeys_getAccounts userId) _
  | getAccountById id => exact responds (obeys_getAccountById userId id) _
  | createAccount dto => exact responds (obeys_createAccount context userId dto) _
  | freezeAccount id | unfreezeAccount id | closeAccount id =>
      exact responds (obeys_changeStatus rfl context userId id) _

end Walk

end BankingBackend
