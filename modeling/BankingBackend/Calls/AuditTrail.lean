import BankingBackend.Calls.Bookkeeping

/-! # The books of a call and the log

The stage a call has reached says which changes and which audit logs of it are in the
log. A statement of another call leaves these alone.
-/

namespace BankingBackend

open Foundation Postgres Common Transactions Accounts

namespace Stage

def made : Stage → List AccountEntry
  | .before => []
  | .owing entry | .audited entry => [entry]

def written : Stage → List AccountEntry
  | .before | .owing _ => []
  | .audited entry => [entry]

end Stage

variable {Thread : Type} [DecidableEq Thread] {requests : Thread → Request}
  {server after : Server Thread} {thread other : Thread} {stage following : Stage}
  {statement : Statement} {answer : Except DatabaseError statement.Result}

/-! ## What a statement adds to the log -/

structure Adds (thread : Thread) (made written : List AccountEntry)
    (server after : Server Thread) : Prop where
  changes : accountChanges after.log =
    accountChanges server.log ++ made.map fun entry => (thread, entry)
  audits : auditEntries after.log =
    auditEntries server.log ++ written.map fun entry => (thread, entry)

theorem adds_commitTx (thread : Thread) (replays : replayed .empty server.log = server.database)
    (tx : Tx) :
    Adds thread (changes server.database (tx.applyTo server.database))
      (tx.auditLogs.map AuditLog.entry) server (server.commitTx thread tx) where
  changes := by rw [Server.commitTx_log, accountChanges_append, replays]
  audits := by
    rw [Server.commitTx_log, auditEntries_append, List.map_map]
    rfl

/-- A statement commits the open transaction of its thread or one of its own, or none. -/
theorem Postgres.Server.Performs.logs
    (performs : Server.Performs server thread statement answer after) :
    (after.log = server.log ∧ after.database = server.database) ∨
      ∃ tx, after.log = server.log ++ [⟨thread, tx⟩] ∧
        after.database = tx.applyTo server.database ∧
        (server.open_ thread = some tx ∨
          ∃ change, Server.Writes server thread statement answer change ∧ tx = change .empty) := by
  cases performs with
  | same | begins | closes => exact .inl ⟨rfl, rfl⟩
  | commits _ tx opened => exact .inr ⟨tx, rfl, rfl, .inl opened⟩
  | writes change writes =>
      cases opened : server.open_ thread with
      | some tx =>
          rw [Server.write_open opened]
          exact .inl ⟨rfl, rfl⟩
      | none =>
          rw [Server.write_closed opened]
          exact .inr ⟨change .empty, rfl, rfl, .inr ⟨change, writes, rfl⟩⟩

omit [DecidableEq Thread] in
theorem Postgres.Server.Writes.auditLogs {change : Tx → Tx}
    (writes : Server.Writes server thread statement answer change)
    (unaudited : ∀ data, statement ≠ .auditLogCreate data) (tx : Tx) :
    (change tx).auditLogs = tx.auditLogs := by
  cases writes with
  | auditLogCreate data => exact absurd rfl (unaudited data)
  | _ => rfl

/-! ## The database and its log -/

/-- The log accounts for all rows, and the audit logs are written in statements of their own. -/
structure Logged (requests : Thread → Request) (server : Server Thread) : Prop where
  composed : Composed requests server
  replays : replayed .empty server.log = server.database
  unaudited : ∀ thread tx, server.open_ thread = some tx → tx.auditLogs = []

omit [DecidableEq Thread] in
theorem Logged.closed (logged : Logged requests server)
    (moneyless : (requests thread).params? = none) : server.open_ thread = none := by
  cases opened : server.open_ thread with
  | none => rfl
  | some tx =>
      rcases (logged.composed.opened thread tx opened).1 with ⟨params, asks⟩
      rw [moneyless] at asks
      cases asks

omit [DecidableEq Thread] in
theorem Logged.unauditedWrites {change : Tx → Tx} {tx : Tx}
    (logged : Logged requests server) (issued : Issued (requests thread) (.query statement))
    (writes : Server.Writes server thread statement answer change)
    (opened : server.open_ thread = some tx) : (change tx).auditLogs = [] := by
  rcases (logged.composed.opened thread tx opened).1 with ⟨params, asks⟩
  rw [writes.auditLogs (issued.keepsStanding asks).2]
  exact logged.unaudited thread tx opened

theorem Logged.performs (logged : Logged requests server)
    (issued : Issued (requests thread) (.query statement))
    (performs : Server.Performs server thread statement answer after) :
    Logged requests after := by
  refine ⟨(logged.composed.performs issued performs).1, ?_, ?_⟩
  · rcases performs.logs with ⟨log, database⟩ | ⟨tx, log, database, _⟩
    · rw [log, database]
      exact logged.replays
    · rw [log, database, replayed, List.foldl_append]
      exact congrArg tx.applyTo logged.replays
  · intro owner current present
    by_cases same : owner = thread
    · subst same
      cases performs with
      | same => exact logged.unaudited owner current present
      | begins =>
          rw [Server.setOpen_open] at present
          cases present
          rfl
      | commits =>
          rw [Server.commitTx_open] at present
          cases present
      | closes =>
          rw [Server.setOpen_open] at present
          cases present
      | writes change writes =>
          cases opened : server.open_ owner with
          | some tx =>
              rw [Server.write_open opened, Server.setOpen_open] at present
              cases present
              exact logged.unauditedWrites issued writes opened
          | none =>
              rw [Server.write_closed opened, Server.commitTx_open] at present
              cases present
    · rw [performs.other same] at present
      exact logged.unaudited owner current present

/-! ## The stage and the log -/

structure Tells (requests : Thread → Request) (thread : Thread) (stage : Stage)
    (server : Server Thread) : Prop where
  changes : entriesOf thread (accountChanges server.log) =
    stage.made.map fun entry => (thread, entry)
  audits : entriesOf thread (auditEntries server.log) =
    stage.written.map fun entry => (thread, entry)
  unchanged : stage = .before → (requests thread).params? = none → Unchanged thread server.log
  stands : ∀ entry ∈ stage.made, (requests thread).params? = none ∧
    ∃ standing, server.database.standing? entry.entityId = some standing ∧
      standing.customerId = entry.customerId

theorem AccountsStep.customer {request : Request} {before after : Database} {id : Uuid}
    {standing : Standing} (accounts : AccountsStep request statement answer before after)
    (found : before.standing? id = some standing) :
    ∃ later, after.standing? id = some later ∧ later.customerId = standing.customerId := by
  cases accounts with
  | keeps same => exact ⟨standing, (same id).trans found, rfl⟩
  | opens dto created asks fresh unique changes =>
      have different : id ≠ created := by
        rintro rfl
        rw [Database.standing?, fresh] at found
        cases found
      exact ⟨standing, (changes id).trans ((if_neg different).trans found), rfl⟩
  | changes text change account asks sets parsed present owned admitted changes =>
      by_cases same : id = account.id
      · rw [same, Database.standing?, present] at found
        cases found
        exact ⟨_, (changes id).trans (if_pos same), rfl⟩
      · exact ⟨standing, (changes id).trans ((if_neg same).trans found), rfl⟩

theorem AccountsStep.stands {request : Request} {before after : Database} {id customerId : Uuid}
    (accounts : AccountsStep request statement answer before after)
    (stands : ∃ standing, before.standing? id = some standing ∧
      standing.customerId = customerId) :
    ∃ standing, after.standing? id = some standing ∧ standing.customerId = customerId := by
  rcases stands with ⟨standing, found, owner⟩
  rcases accounts.customer found with ⟨later, present, same⟩
  exact ⟨later, present, same.trans owner⟩

omit [DecidableEq Thread] in
theorem Logged.initial : Logged requests .initial where
  composed := ⟨by rintro _ _ ⟨⟩, by rintro _ _ ⟨⟩⟩
  replays := rfl
  unaudited := by rintro _ _ ⟨⟩

theorem Tells.same (tells : Tells requests thread stage server) (log : after.log = server.log)
    (database : after.database = server.database) : Tells requests thread stage after where
  changes := log ▸ tells.changes
  audits := log ▸ tells.audits
  unchanged := log ▸ tells.unchanged
  stands := database ▸ tells.stands

theorem Tells.others (tells : Tells requests thread stage server) (different : thread ≠ other)
    (logged : Logged requests server) (issued : Issued (requests other) (.query statement))
    (performs : Server.Performs server other statement answer after) :
    Tells requests thread stage after := by
  have stands := fun entry member => (tells.stands entry member).imp_right
    (logged.composed.performs issued performs).2.stands
  rcases performs.logs with ⟨log, _⟩ | ⟨tx, log, _, _⟩
  · exact ⟨log ▸ tells.changes, log ▸ tells.audits, log ▸ tells.unchanged, stands⟩
  · refine ⟨?_, ?_, fun before moneyless => ?_, stands⟩
    · rw [log, accountChanges_append, entriesOf_append, entriesOf_other different.symm,
        List.append_nil]
      exact tells.changes
    · have others := entriesOf_other different.symm (tx.auditLogs.map AuditLog.entry)
      rw [List.map_map] at others
      rw [log, auditEntries_append, entriesOf_append]
      exact (congrArg (_ ++ ·) others).trans ((List.append_nil _).trans tells.audits)
    · rw [log]
      exact (tells.unchanged before moneyless).append fun mine => absurd mine different.symm

/-! ## The statements of a call -/

theorem Tells.commits (tells : Tells requests thread stage server)
    (logged : Logged requests server) {tx : Tx}
    (keeps : ∀ id, (tx.applyTo server.database).standing? id = server.database.standing? id)
    (made : following.made = stage.made)
    (written : following.written = stage.written ++ tx.auditLogs.map AuditLog.entry)
    (money : following = .before → (requests thread).params? ≠ none) :
    Tells requests thread following (server.commitTx thread tx) := by
  have adds := adds_commitTx thread logged.replays tx
  rw [changes_of_same keeps] at adds
  refine ⟨?_, ?_, fun before moneyless => absurd moneyless (money before), fun entry member => ?_⟩
  · rw [adds.changes, List.map_nil, List.append_nil, tells.changes, made]
  · rw [adds.audits, entriesOf_append, entriesOf_own, tells.audits, written, List.map_append]
  · rw [made] at member
    rcases tells.stands entry member with ⟨moneyless, standing, found, owner⟩
    exact ⟨moneyless, standing, (keeps entry.entityId).trans found, owner⟩

theorem Tells.alters (tells : Tells requests thread .before server)
    (logged : Logged requests server) {tx : Tx} {entry : AccountEntry} {standing : Standing}
    (unaudited : tx.auditLogs = []) (moneyless : (requests thread).params? = none)
    (updates : ∀ id, (tx.applyTo server.database).standing? id =
      if id = entry.entityId then some standing else server.database.standing? id)
    (counts : changed server.database (tx.applyTo server.database) entry.entityId = some entry)
    (owner : standing.customerId = entry.customerId) :
    Tells requests thread (.owing entry) (server.commitTx thread tx) := by
  have adds := adds_commitTx thread logged.replays tx
  rw [changes_of_one updates counts, unaudited] at adds
  refine ⟨?_, ?_, (by rintro ⟨⟩), fun other member => ?_⟩
  · rw [adds.changes, entriesOf_append, entriesOf_own, tells.changes]
    rfl
  · rw [adds.audits, List.map_nil, List.map_nil, List.append_nil]
    exact tells.audits
  · rcases List.mem_singleton.mp member with rfl
    exact ⟨moneyless, standing, (updates _).trans (if_pos rfl), owner⟩

theorem Tells.money {params : TransactionParams} (tells : Tells requests thread .before server)
    (logged : Logged requests server) (asks : (requests thread).params? = some params)
    (issued : Issued (requests thread) (.query statement))
    (performs : Server.Performs server thread statement answer after) :
    Tells requests thread .before after := by
  have keeps (id : Uuid) : after.database.standing? id = server.database.standing? id := by
    cases (logged.composed.performs issued performs).2 with
    | keeps same => exact same id
    | opens dto created creation =>
        rw [Request.params?, creation] at asks
        cases asks
    | changes text change account asked =>
        rw [Request.change?_params? asked] at asks
        cases asks
  rcases performs.logs with ⟨log, database⟩ | ⟨tx, log, database, origin⟩
  · exact tells.same log database
  · have unaudited : tx.auditLogs = [] := by
      rcases origin with opened | ⟨change, writes, rfl⟩
      · exact logged.unaudited thread tx opened
      · exact writes.auditLogs (issued.keepsStanding asks).2 .empty
    have committed : Tells requests thread .before (server.commitTx thread tx) := by
      refine tells.commits logged (fun id => database ▸ keeps id) rfl ?_ fun _ => ?_
      · rw [unaudited]
        rfl
      · rw [asks]
        exact Option.some_ne_none params
    exact committed.same log database

/-! ### Calls for accounts -/

/-- A statement that writes nothing outside a transaction. -/
def Postgres.Statement.Reads : Statement → Prop
  | .transactionFindFirst _ | .transactionSum _ | .accountFindFirst _ _ | .accountFindMany _ => True
  | _ => False

theorem Written.asked {request : Request} {payload : TransactionEventPayload}
    (written : Written request payload) : ∃ params, request.params? = some params := by
  cases written with
  | completed asks | rejected asks => exact ⟨_, asks⟩

theorem Issued.moneyless {request : Request} (moneyless : request.params? = none)
    (issued : Issued request (.query statement)) : statement.Reads ∨
      (∃ dto, request.operation = .createAccount dto ∧
        statement = .accountCreate request.userId dto.currency) ∨
      (∃ text change, request.change? = some (text, change) ∧
        statement = .accountUpdateMany text
          { change.filter with customerId := some request.userId } (.setStatus change.status)) ∨
      ∃ data, statement = .auditLogCreate data := by
  have absurd {params : TransactionParams} (asks : request.params? = some params) : False := by
    rw [moneyless] at asks
    cases asks
  cases issued with
  | asks permitted =>
      cases statement with
      | transactionFindFirst | transactionSum => exact .inl trivial
      | _ => exact permitted.elim
  | control _ asks | money _ asks => exact (absurd asks).elim
  | announces written =>
      rcases written.asked with ⟨params, asks⟩
      exact (absurd asks).elim
  | finds | lists => exact .inl trivial
  | creates asks => exact .inr (.inl ⟨_, asks, rfl⟩)
  | changes asks => exact .inr (.inr (.inl ⟨_, _, asks, rfl⟩))
  | audits data => exact .inr (.inr (.inr ⟨data, rfl⟩))

/-- A statement that goes on with the open transaction answers without a change, or writes. -/
theorem Postgres.Server.Performs.inner
    (performs : Server.Performs server thread statement answer after) (inner : statement.Inner) :
    statement.Leaves answer ∧ after = server ∨
      ∃ change, Server.Writes server thread statement answer change ∧
        after = server.write thread change := by
  cases performs with
  | same leaves => exact .inl ⟨leaves, rfl⟩
  | begins begin_ => exact (begin_ ▸ inner).elim
  | commits commit => exact (commit ▸ inner).elim
  | closes ends =>
      rcases ends with rfl | ⟨rfl, _⟩
      · exact inner.elim
      · exact inner.elim
  | writes change writes => exact .inr ⟨change, writes, rfl⟩

theorem Postgres.Statement.Leaves.unaltered (leaves : statement.Leaves answer) :
    ¬statement.Alters answer := by
  cases statement with
  | accountCreate =>
      cases answer with
      | ok account => exact leaves.elim
      | error error => exact id
  | accountUpdateMany text filter data =>
      cases data with
      | setStatus status =>
          cases answer with
          | ok count => exact fun one => leaves (congrArg Except.ok one)
          | error error => exact id
      | _ => exact id
  | _ => exact id

theorem Request.change?_differs {request : Request} {text : String} {change : StatusChange}
    {account : Account} (asks : request.change? = some (text, change))
    (admitted : change.filter.admits account = true) : account.status ≠ change.status := by
  rcases request with ⟨userId, context, operation⟩
  intro same
  cases operation <;> cases asks
  · simp [freeze, AccountFilter.admits, StatusFilter.admits, same] at admitted
  · simp [unfreeze, AccountFilter.admits, StatusFilter.admits, same] at admitted
  · simp [close, AccountFilter.admits, StatusFilter.admits, same] at admitted

theorem standing?_created {database : Database} {id : Uuid} (customerId : Uuid)
    (currency : Currency) (createdAt : ℕ) (fresh : database.account? id = none) (key : Uuid) :
    ((Tx.empty.createAccount ⟨id, customerId, .zero, currency, .active, createdAt⟩).applyTo
      database).standing? key =
        if key = id then some ⟨customerId, currency, .active⟩ else database.standing? key :=
  standing?_createAccount fresh key

theorem Tells.accounts (tells : Tells requests thread .before server)
    (logged : Logged requests server) (moneyless : (requests thread).params? = none)
    (issued : Issued (requests thread) (.query statement))
    (permits : Stage.Permits .before (.query statement))
    (performs : Server.Performs server thread statement answer after) :
    ∃ following, Stage.Moves .before (.query statement) answer following ∧
      Tells requests thread following after := by
  have closed := logged.closed moneyless
  have leaves (left : statement.Leaves answer) :
      ∃ following, Stage.Moves .before (.query statement) answer following ∧
        Tells requests thread following server :=
    ⟨.before, .keeps _ _ left.unaltered, tells⟩
  rcases issued.moneyless moneyless with
    reads | ⟨dto, asks, rfl⟩ | ⟨text, change, asks, rfl⟩ | ⟨data, rfl⟩
  · have inner : statement.Inner := by cases statement <;> trivial
    rcases performs.inner inner with ⟨left, rfl⟩ | ⟨change, writes, rfl⟩
    · exact leaves left
    · cases writes <;> exact reads.elim
  · rcases performs.inner trivial with ⟨left, rfl⟩ | ⟨change, writes, rfl⟩
    · exact leaves left
    · cases writes with
      | accountCreate _ _ id createdAt _ fresh unique =>
          rw [Server.write_closed closed]
          have updates := standing?_created (requests thread).userId dto.currency createdAt fresh
          have absent : server.database.standing? id = none := by
            rw [Database.standing?, fresh, Option.map_none]
          exact ⟨_, .creates _ _ _, tells.alters logged rfl moneyless updates
            (changed_created absent ((updates id).trans (if_pos rfl))) rfl⟩
  · rcases performs.inner trivial with ⟨left, rfl⟩ | ⟨change, writes, rfl⟩
    · exact leaves left
    · cases writes with
      | accountUpdateMany _ _ _ id account written parsed visible admitted applied free =>
          rw [Server.visible_closed closed] at visible
          rw [Server.write_closed closed]
          rcases admits_customer _ admitted with ⟨owner, admits⟩
          rw [(Request.change?_open asks).filter] at admits
          cases applied
          have named := Database.account?_id visible
          subst named
          have updates := standing?_writeAccount { account with status := change.status } visible
          have present : server.database.standing? account.id = some account.standing := by
            rw [Database.standing?, visible, Option.map_some]
          have counts := changed_set present ((updates account.id).trans (if_pos rfl))
            (Request.change?_differs asks admits)
          exact ⟨_, .sets _ _ _ _ _ parsed (congrArg some owner.symm),
            tells.alters logged rfl moneyless updates counts rfl⟩
  · exact permits.elim

section Responses

variable [Fintype Thread] {entry : AccountEntry} {newId : Uuid} {now : ℕ}

/-- The audit log is inserted when the server does not fail. -/
theorem Tells.responds_auditLogCreate {data : AuditLogData}
    {answer : Except DatabaseError Unit} (tells : Tells requests thread (.owing entry) server)
    (logged : Logged requests server) (owed : data.entry? = some entry)
    (responded : server.respond thread newId now (.auditLogCreate data) = some (answer, after)) :
    answer = .ok () ∧ Tells requests thread (.audited entry) after := by
  have closed := logged.closed (tells.stands entry List.mem_cons_self).1
  rcases Option.map_eq_some_iff.mp owed with ⟨entityId, parsed, rfl⟩
  simp only [Server.respond, parsed] at responded
  cases responded
  rw [Server.write_closed closed]
  refine ⟨rfl, tells.commits logged ?_ rfl rfl (by rintro ⟨⟩)⟩
  exact (keepsStanding_of_unwritten rfl rfl).applyTo fun _ _ written => by cases written

theorem Tells.responds_findFirst {text : String}
    {answer : Except DatabaseError (Option Account)}
    (tells : Tells requests thread (.audited entry) server) (logged : Logged requests server)
    (parsed : Uuid.parse? text = some entry.entityId)
    (responded : server.respond thread newId now (.accountFindFirst (some text)
      { customerId := some entry.customerId }) = some (answer, after)) :
    (∃ account, answer = .ok (some account)) ∧ after = server := by
  rcases tells.stands entry List.mem_cons_self with ⟨moneyless, standing, stands, owner⟩
  rcases Option.map_eq_some_iff.mp stands with ⟨account, found, rfl⟩
  have visible := (Server.visible_closed (logged.closed moneyless) entry.entityId).trans found
  have admitted : ({ customerId := some entry.customerId } : AccountFilter).admits account = true := by
    simpa [AccountFilter.admits, Account.standing] using owner.symm
  simp only [Server.respond, Server.findFirstAccount, parsed, visible, Option.filter_some, admitted,
    if_true] at responded
  cases responded
  exact ⟨⟨account, rfl⟩, rfl⟩

end Responses

/-! ## The steps of a call -/

/-- No statement of a call for accounts fails once the call has changed the accounts table. -/
def FailsUnchanged (requests : Thread → Request) (thread : Thread) (command : Command)
    (choice : Choice) (server : Server Thread) : Prop :=
  ∀ statement, command = .query statement → (requests thread).params? = none →
    choice.failure.isSome = true → Unchanged thread server.log

structure Allowed (requests : Thread → Request) (thread : Thread) (command : interface.Op)
    (choice : Choice) (world : World Thread) : Prop where
  logged : Logged requests world.server
  issued : Issued (requests thread) command
  fails : FailsUnchanged requests thread command choice world.server

theorem Tells.succeeds {entry : AccountEntry} {choice : Choice}
    (tells : Tells requests thread stage server) (made : stage.made = [entry])
    (fails : FailsUnchanged requests thread (.query statement) choice server) :
    choice.failure = none := by
  have member : entry ∈ stage.made := made ▸ List.mem_cons_self
  by_contra failure
  have unchanged := fails statement rfl (tells.stands entry member).1
    (Option.isSome_iff_ne_none.mpr failure)
  have changes := tells.changes
  rw [unchanged.entriesOf, made] at changes
  cases changes

theorem Tells.acts [Fintype Thread] {choice : Choice} {newId : Uuid} {now : ℕ}
    (tells : Tells requests thread stage server) (logged : Logged requests server)
    (issued : Issued (requests thread) (.query statement))
    (fails : FailsUnchanged requests thread (.query statement) choice server)
    (permits : Stage.Permits stage (.query statement))
    (performed : server.perform thread choice.failure newId now statement = some (answer, after)) :
    ∃ following, Stage.Moves stage (.query statement) answer following ∧
      Tells requests thread following after := by
  cases stage with
  | before =>
      have performs := Server.perform_performs performed
      cases asks : (requests thread).params? with
      | none => exact tells.accounts logged asks issued permits performs
      | some params =>
          have keeps := (issued.keepsStanding asks).1
          exact ⟨.before, .keeps _ _ (keeps.unaltered answer),
            tells.money logged asks issued performs⟩
  | owing entry =>
      rw [tells.succeeds rfl fails] at performed
      cases statement with
      | auditLogCreate data =>
          rcases tells.responds_auditLogCreate logged permits performed with ⟨rfl, audited⟩
          exact ⟨.audited entry, .audits entry data, audited⟩
      | _ => exact permits.elim
  | audited entry =>
      rw [tells.succeeds rfl fails] at performed
      cases statement with
      | accountFindFirst text filter =>
          cases text with
          | none => exact permits.elim
          | some text =>
              rcases permits with ⟨parsed, rfl⟩
              have responded : server.respond thread newId now (.accountFindFirst (some text)
                { customerId := some entry.customerId }) = some (answer, after) := performed
              rcases tells.responds_findFirst logged parsed responded with ⟨⟨account, rfl⟩, rfl⟩
              exact ⟨.audited entry, .finds entry _ _ account, tells⟩
      | _ => exact permits.elim

theorem bookkeeping_shares [Fintype Thread] (requests : Thread → Request) :
    Monitor.Shares (fun _ => bookkeeping) (machine Thread) (fun _ => True) (Allowed requests)
      (fun _ => True) (fun thread stage world => Tells requests thread stage world.server) where
  acts {thread stage command choice before answer after} _ tells permits allowed performed := by
    by_cases query : ∃ statement, command = .query statement
    · rcases query with ⟨statement, rfl⟩
      rcases Option.map_eq_some_iff.mp performed with ⟨⟨reply, server⟩, done, equal⟩
      cases equal
      exact tells.acts allowed.logged allowed.issued allowed.fails permits done
    · have other (statement : Statement) : command ≠ .query statement :=
        fun same => query ⟨statement, same⟩
      have same := perform_server other performed
      cases stage with
      | before => exact ⟨.before, .asks command answer other, same ▸ tells⟩
      | owing | audited =>
          cases command with
          | query statement => exact absurd rfl (other statement)
          | _ => exact permits.elim
  others different tells _ _ allowed performed := by
    rcases perform_cases performed with ⟨_, same⟩ | ⟨statement, reply, rfl, performs⟩
    · exact same ▸ tells
    · exact tells.others different allowed.logged allowed.issued performs
  environment tells _ happened := environment_server happened ▸ tells

end BankingBackend
