import BankingBackend.Calls.Events

/-! # Steps of an account

What one step can do to the owner, the currency and the status of the accounts: the
money calls leave them alone, a request for an account opens one, and a request for
another status changes one that is not closed.
-/

namespace BankingBackend

open Foundation Foundation.Program Postgres Common Fraud Transactions Accounts

/-- What an account is apart from its balance. -/
structure Standing where
  customerId : Uuid
  currency : Currency
  status : AccountStatus
  deriving DecidableEq

namespace Postgres

def Account.standing (account : Account) : Standing :=
  ⟨account.customerId, account.currency, account.status⟩

def Database.standing? (database : Database) (id : Uuid) : Option Standing :=
  (database.account? id).map Account.standing

/-- The transaction changes no account but for its balance. -/
structure Tx.KeepsStanding (tx : Tx) (database : Database) : Prop where
  created : tx.createdAccounts = []
  versions : ∀ id version, tx.accounts id = some version →
    ∃ account, database.account? id = some account ∧ version.standing = account.standing

def Statement.KeepsStanding : Statement → Prop
  | .accountCreate _ _ | .accountUpdate _ (.setStatus _) | .accountUpdateMany _ _ (.setStatus _) =>
      False
  | _ => True

end Postgres

def Postgres.Statement.Sets : (statement : Statement) → Except DatabaseError statement.Result → Prop
  | .accountUpdateMany _ _ (.setStatus _), answer => answer = .ok 1
  | _, _ => False

inductive AccountsStep (request : Request) (statement : Statement)
    (answer : Except DatabaseError statement.Result) (before after : Database) : Prop
  | keeps (same : ∀ id, after.standing? id = before.standing? id) (unset : ¬statement.Sets answer)
  | opens (dto : CreateAccountRequestDto) (id : Uuid)
      (asks : request.operation = .createAccount dto) (fresh : before.account? id = none)
      (unique : Server.hasOpenAccount before request.userId dto.currency = false)
      (changes : ∀ key, after.standing? key =
        if key = id then some ⟨request.userId, dto.currency, .active⟩ else before.standing? key)
  | changes (text : String) (change : StatusChange) (account : Account)
      (asks : request.change? = some (text, change))
      (sets : statement = .accountUpdateMany text
        { change.filter with customerId := some request.userId } (.setStatus change.status))
      (parsed : Uuid.parse? text = some account.id)
      (found : before.account? account.id = some account)
      (owned : account.customerId = request.userId) (admitted : change.filter.admits account = true)
      (changes : ∀ key, after.standing? key =
        if key = account.id then some { account.standing with status := change.status }
        else before.standing? key)

theorem Postgres.Statement.Leaves.unset {statement : Statement}
    {answer : Except DatabaseError statement.Result} (leaves : statement.Leaves answer) :
    ¬statement.Sets answer := by
  cases statement with
  | accountUpdateMany text filter data =>
      cases data with
      | setStatus status => exact leaves
      | _ => exact id
  | _ => exact id

theorem Postgres.Statement.KeepsStanding.unset {statement : Statement}
    {answer : Except DatabaseError statement.Result} (keeps : statement.KeepsStanding) :
    ¬statement.Sets answer := by
  cases statement with
  | accountUpdateMany text filter data =>
      cases data with
      | setStatus status => exact keeps.elim
      | _ => exact id
  | _ => exact id

/-! ## Transactions that keep the standing -/

section Transactions

variable {database : Database} {tx : Tx}

theorem Postgres.Tx.KeepsStanding.version (keeps : tx.KeepsStanding database) {id : Uuid}
    {account : Account} (found : database.account? id = some account) :
    (tx.version account).standing = account.standing := by
  unfold Tx.version
  cases written : tx.accounts account.id with
  | none => rfl
  | some version =>
      rcases keeps.versions _ _ written with ⟨committed, present, same⟩
      rw [Database.account?_id found, found] at present
      cases present
      exact same

theorem Postgres.Tx.KeepsStanding.applyTo (keeps : tx.KeepsStanding database) (ids : tx.KeepsIds)
    (id : Uuid) : (tx.applyTo database).standing? id = database.standing? id := by
  unfold Database.standing?
  rw [ids.account?_applyTo, keeps.created, List.find?_nil, Option.or_none]
  cases found : database.account? id with
  | none => rfl
  | some account => simp [keeps.version found]

theorem keepsStanding_of_unwritten (created : tx.createdAccounts = [])
    (unwritten : tx.accounts = fun _ => none) : tx.KeepsStanding database :=
  ⟨created, by simp [unwritten]⟩

theorem Postgres.Tx.KeepsStanding.mono {following : Tx} (keeps : tx.KeepsStanding database)
    (created : following.createdAccounts = tx.createdAccounts)
    (accounts : following.accounts = tx.accounts) : following.KeepsStanding database :=
  ⟨created.trans keeps.created, by
    rw [accounts]
    exact keeps.versions⟩

theorem Postgres.Tx.KeepsStanding.writeAccount (keeps : tx.KeepsStanding database)
    {account written : Account} (found : database.account? written.id = some account)
    (same : written.standing = account.standing) :
    (tx.writeAccount written).KeepsStanding database := by
  refine ⟨keeps.created, fun id version present => ?_⟩
  by_cases equal : id = written.id
  · subst equal
    simp only [Tx.writeAccount, Function.update_self] at present
    cases present
    exact ⟨account, found, same⟩
  · simp only [Tx.writeAccount, Function.update_of_ne equal] at present
    exact keeps.versions id version present

theorem Postgres.AccountUpdate.apply_standing {data : AccountUpdate} {account written : Account}
    (balance : ∀ status, data ≠ .setStatus status) (applied : data.apply account = some written) :
    written.standing = account.standing := by
  cases data with
  | setStatus status => exact absurd rfl (balance status)
  | increment | decrement =>
      rcases Option.map_eq_some_iff.mp applied with ⟨_, _, rfl⟩
      rfl

end Transactions

/-! ## Statements -/

section Statements

variable {Thread : Type} {thread : Thread} {server : Server Thread} {tx : Tx}

theorem Postgres.Server.Writes.keepsStanding {statement : Statement}
    {answer : Except DatabaseError statement.Result} {change : Tx → Tx}
    (writes : Server.Writes server thread statement answer change)
    (balanced : statement.KeepsStanding) (all : server.AllPending)
    (sees : ∀ id, server.visible thread id = (server.database.account? id).map tx.version)
    (keeps : tx.KeepsStanding server.database) : (change tx).KeepsStanding server.database := by
  have updates {data : AccountUpdate} {id : Uuid} {account written : Account}
      (balance : ∀ status, data ≠ .setStatus status)
      (visible : server.visible thread id = some account)
      (applied : data.apply account = some written) :
      (tx.writeAccount written).KeepsStanding server.database := by
    have named : written.id = id :=
      (AccountUpdate.apply_id applied).trans (all.visible_id visible)
    rw [sees] at visible
    rcases Option.map_eq_some_iff.mp visible with ⟨committed, found, rfl⟩
    refine keeps.writeAccount (named.symm ▸ found) ?_
    rw [AccountUpdate.apply_standing balance applied, keeps.version found]
  cases writes with
  | accountCreate => exact balanced.elim
  | accountUpdate text data id account written parsed visible applied =>
      refine updates ?_ visible applied
      rintro status rfl
      exact balanced
  | accountUpdateMany text filter data id account written parsed visible admitted applied =>
      refine updates ?_ visible applied
      rintro status rfl
      exact balanced
  | _ => exact keeps.mono rfl rfl

/-! ## What open transactions contain -/

/-- Only money calls have transactions open, and these change balances only. -/
structure Composed (requests : Thread → Request) (server : Server Thread) : Prop where
  pending : server.AllPending
  opened : ∀ thread tx, server.open_ thread = some tx →
    (∃ params, (requests thread).params? = some params) ∧ tx.KeepsStanding server.database

variable [DecidableEq Thread] {requests : Thread → Request} {after : Server Thread}

theorem Composed.setOpen (composed : Composed requests server) {tx : Option Tx}
    (pending : ∀ current, tx = some current → server.Pending thread current)
    (own : ∀ current, tx = some current →
      (∃ params, (requests thread).params? = some params) ∧
        current.KeepsStanding server.database) :
    Composed requests (server.setOpen thread tx) where
  pending := composed.pending.setOpen pending
  opened other current opened := by
    by_cases same : other = thread
    · subst same
      rw [Server.setOpen_open] at opened
      exact own current opened
    · rw [Server.setOpen_other same] at opened
      exact composed.opened other current opened

/-- The rows that another transaction has written stay what they are. -/
theorem Composed.commitTx (composed : Composed requests server)
    (pending : server.Pending thread tx) : Composed requests (server.commitTx thread tx) where
  pending := composed.pending.commitTx pending
  opened other current opened := by
    by_cases same : other = thread
    · subst same
      rw [Server.commitTx_open] at opened
      cases opened
    · rw [Server.commitTx_other same] at opened
      rcases composed.opened other current opened with ⟨money, keeps⟩
      refine ⟨money, keeps.created, fun id version written => ?_⟩
      rcases keeps.versions id version written with ⟨account, found, standing⟩
      have unwritten : tx.accounts id = none :=
        (pending.apart other current same opened).symm.rows id (by simp [written])
      exact ⟨account, pending.keepsIds.account?_unwritten unwritten found, standing⟩

/-! ## Steps -/

theorem standing?_createAccount {database : Database} {account : Account}
    (fresh : database.account? account.id = none) (key : Uuid) :
    ((Tx.empty.createAccount account).applyTo database).standing? key =
      if key = account.id then some account.standing else database.standing? key := by
  have ids : (Tx.empty.createAccount account).KeepsIds := fun _ _ written => by cases written
  have same : (Tx.empty.createAccount account).version = fun other => other :=
    funext fun other => Tx.version_of_unwritten rfl
  unfold Database.standing?
  rw [ids.account?_applyTo, same, Option.map_id']
  by_cases equal : key = account.id
  · subst equal
    simp [fresh, Tx.createAccount, Tx.empty]
  · simp [equal, Ne.symm equal, Tx.createAccount, Tx.empty]

theorem standing?_writeAccount {database : Database} {account : Account} (written : Account)
    (found : database.account? written.id = some account) (key : Uuid) :
    ((Tx.empty.writeAccount written).applyTo database).standing? key =
      if key = written.id then some written.standing else database.standing? key := by
  have ids : (Tx.empty.writeAccount written).KeepsIds := by
    intro id version present
    by_cases equal : id = written.id
    · subst equal
      simp only [Tx.writeAccount, Function.update_self] at present
      cases present
      rfl
    · simp [Tx.writeAccount, Function.update_of_ne equal, Tx.empty] at present
  unfold Database.standing?
  rw [ids.account?_applyTo]
  by_cases equal : key = written.id
  · subst equal
    have named := Database.account?_id found
    simp [found, Tx.version, Tx.writeAccount, named]
  · cases present : database.account? key with
    | none => simp [equal, Tx.writeAccount, Tx.empty]
    | some other =>
        have named := Database.account?_id present
        simp [equal, Tx.version, Tx.writeAccount, Tx.empty, named]

theorem Request.change?_open {request : Request} {text : String} {change : StatusChange}
    (asks : request.change? = some (text, change)) : ChangesOpen change := by
  rcases request with ⟨userId, context, operation⟩
  cases operation <;> cases asks
  · exact changesOpen_freeze
  · exact changesOpen_unfreeze
  · exact changesOpen_close

omit [DecidableEq Thread] in
theorem Composed.writes {statement : Statement} {answer : Except DatabaseError statement.Result}
    {change : Tx → Tx} (composed : Composed requests server)
    (issued : Issued (requests thread) (.query statement))
    (writes : Server.Writes server thread statement answer change)
    (standing : ¬statement.KeepsStanding) :
    server.open_ thread = none ∧
      AccountsStep (requests thread) statement answer server.database
        ((change .empty).applyTo server.database) := by
  cases writes with
  | accountCreate customerId currency id createdAt closed fresh unique =>
      refine ⟨closed, ?_⟩
      cases issued with
      | asks asks => exact asks.elim
      | control outer => exact absurd trivial outer
      | money money => exact money.elim
      | creates asks =>
          exact .opens _ id asks fresh unique fun key => standing?_createAccount fresh key
  | accountUpdate text data id account written parsed visible applied =>
      cases issued with
      | asks asks => exact asks.elim
      | control outer => exact absurd trivial outer
      | money money =>
          cases data with
          | setStatus status => exact money.elim
          | increment | decrement => exact absurd trivial standing
  | accountUpdateMany text filter data id account written parsed visible admitted applied =>
      cases issued with
      | asks asks => exact asks.elim
      | control outer => exact absurd trivial outer
      | money money =>
          cases data with
          | setStatus status => exact money.elim
          | increment | decrement => exact absurd trivial standing
      | @changes _ change asks =>
          have closed : server.open_ thread = none := by
            cases opened : server.open_ thread with
            | none => rfl
            | some tx =>
                rcases (composed.opened thread tx opened).1 with ⟨params, money⟩
                rw [Request.change?_params? asks] at money
                cases money
          refine ⟨closed, ?_⟩
          rw [Server.visible_closed closed] at visible
          rcases admits_customer _ admitted with ⟨owner, admits⟩
          rw [(Request.change?_open asks).filter] at admits
          cases applied
          have named := Database.account?_id visible
          subst named
          exact .changes text change account asks rfl parsed visible owner admits
            (standing?_writeAccount { account with status := change.status } visible)
  | _ => exact absurd trivial standing

/-- The step of a call keeps all accounts but for their balances, or opens or changes one. -/
theorem Composed.performs {statement : Statement} {answer : Except DatabaseError statement.Result}
    (composed : Composed requests server) (issued : Issued (requests thread) (.query statement))
    (performs : Server.Performs server thread statement answer after) :
    Composed requests after ∧
      AccountsStep (requests thread) statement answer server.database after.database := by
  cases performs with
  | same leaves => exact ⟨composed, .keeps (fun _ => rfl) leaves.unset⟩
  | begins begin_ =>
      subst begin_
      have money : ∃ params, (requests thread).params? = some params := by
        cases issued with
        | asks asks => exact asks.elim
        | control _ asks => exact ⟨_, asks⟩
        | money money => exact money.elim
      refine ⟨composed.setOpen ?_ ?_, .keeps (fun _ => rfl) id⟩
      · rintro _ ⟨⟩
        exact Server.pending_of_empty rfl rfl
      · rintro _ ⟨⟩
        exact ⟨money, keepsStanding_of_unwritten rfl rfl⟩
  | commits commit tx opened =>
      subst commit
      have pending := composed.pending thread tx opened
      exact ⟨composed.commitTx pending,
        .keeps ((composed.opened thread tx opened).2.applyTo pending.keepsIds) id⟩
  | closes ends =>
      refine ⟨composed.setOpen (by rintro _ ⟨⟩) (by rintro _ ⟨⟩), .keeps (fun _ => rfl) ?_⟩
      rcases ends with rfl | ⟨rfl, _⟩ <;> exact id
  | writes change writes =>
      cases opened : server.open_ thread with
      | some tx =>
          have balanced : statement.KeepsStanding := by
            by_contra standing
            rw [(composed.writes issued writes standing).1] at opened
            cases opened
          rcases composed.opened thread tx opened with ⟨money, keeps⟩
          rw [Server.write_open opened]
          refine ⟨composed.setOpen ?_ ?_, .keeps (fun _ => rfl) balanced.unset⟩
          · rintro _ ⟨⟩
            exact writes.pending composed.pending (composed.pending thread tx opened)
          · rintro _ ⟨⟩
            exact ⟨money, writes.keepsStanding balanced composed.pending
              (Server.visible_open opened) keeps⟩
      | none =>
          have empty : server.Pending thread .empty := Server.pending_of_empty rfl rfl
          have pending := writes.pending composed.pending empty
          rw [Server.write_closed opened]
          refine ⟨composed.commitTx pending, ?_⟩
          by_cases balanced : statement.KeepsStanding
          · have keeps : (change .empty).KeepsStanding server.database := by
              refine writes.keepsStanding balanced composed.pending (fun id => ?_)
                (keepsStanding_of_unwritten rfl rfl)
              rw [Server.visible_closed opened]
              exact (Option.map_id' ..).symm
            exact .keeps (keeps.applyTo pending.keepsIds) balanced.unset
          · exact (composed.writes issued writes balanced).2

end Statements

/-! ## The first step of a call -/

theorem run_query {α β : Type} (respond : α → β) (statement : Statement)
    (rest : statement.Result → Service α) :
    ∃ next, (respond <$> (query statement >>= rest)).run = .call (.query statement) next ∧
      (∀ value, next (.ok value) = (respond <$> rest value).run) ∧
      ∀ error, next (.error error) = .done (.error (.database error)) :=
  ⟨_, rfl, fun _ => rfl, fun _ => rfl⟩

def Statusless : Command → Prop
  | .query (.accountUpdate _ (.setStatus _)) | .query (.accountUpdateMany _ _ (.setStatus _)) => False
  | _ => True

def Failed (result : CallResult) : Prop := ∀ response, result ≠ .ok response

section Requests

variable {request : Request}

theorem Issued.statusless (unasked : request.change? = none) {command : interface.Op}
    (issued : Issued request command) : Statusless command := by
  cases command with
  | query statement =>
      cases statement with
      | accountUpdate text data =>
          cases data with
          | setStatus status =>
              cases issued with
              | asks asks => exact asks
              | control outer => exact outer trivial
              | money money => exact money
          | _ => trivial
      | accountUpdateMany text filter data =>
          cases data with
          | setStatus status =>
              cases issued with
              | asks asks => exact asks
              | control outer => exact outer trivial
              | money money => exact money
              | changes asks =>
                  rw [unasked] at asks
                  cases asks
          | _ => trivial
      | _ => trivial
  | _ => trivial

variable {text : String} {change : StatusChange} (asks : request.change? = some (text, change))
include asks

theorem handle_change (config : FraudConfig) : handle config request =
    .account <$> changeStatus change request.context request.userId text := by
  rcases request with ⟨userId, context, operation⟩
  cases operation <;> cases asks <;> rfl

/-- The first statement of a status change sets the status, and without it the call fails. -/
theorem change_begins (config : FraudConfig) :
    ∃ next, (handle config request).run = .call (.query (.accountUpdateMany text
        { change.filter with customerId := some request.userId } (.setStatus change.status))) next ∧
      (∀ answer, (next answer).Only Statusless) ∧
      ∀ answer, answer ≠ .ok 1 → (next answer).Yields Failed := by
  rw [handle_change asks]
  rcases run_query Response.account _ _ with ⟨next, program, goesOn, fails⟩
  refine ⟨next, program, fun answer => ?_, fun answer refused => ?_⟩
  · cases answer with
    | error error =>
        rw [fails]
        trivial
    | ok count =>
        rw [goesOn]
        exact Issues.bind (issues_changed (fun _ _ => trivial) (fun _ => trivial) change
          request.context request.userId text count) fun _ => issues_pure _
  · cases answer with
    | error error =>
        rw [fails]
        rintro response ⟨⟩
    | ok count =>
        have other : count ≠ 1 := fun one => refused (one ▸ rfl)
        rw [goesOn, if_pos other]
        refine Gives.bind_gives (Gives.bind fun found => ?_) (fun _ absurd => False.elim absurd)
        cases found <;> exact gives_throw _

end Requests

/-! ## Every interleaving -/

section Runs

variable {Thread : Type} [DecidableEq Thread] [Fintype Thread] {config : FraudConfig}
  {requests : Thread → Request} {current following : Configuration Thread}

structure Opening (requests : Thread → Request) (current : Configuration Thread) : Prop where
  composed : Composed requests current.shared.server
  issued : ∀ thread, (current.program thread).Only (Issued (requests thread))

theorem Opening.step (opening : Opening requests current) {label : Label Thread}
    (taken : step current label = some following) : Opening requests following ∧
      (following.shared.server = current.shared.server ∨
        ∃ thread choice statement next answer, label = .perform thread choice ∧
          current.program thread = .call (.query statement) next ∧
          AccountsStep (requests thread) statement answer
            current.shared.server.database following.shared.server.database) := by
  have issued := Machine.only_step taken opening.issued
  cases label with
  | environment event =>
      have same := step_environment_server taken
      exact ⟨⟨same ▸ opening.composed, issued⟩, .inl same⟩
  | perform thread choice =>
      rcases Machine.step_perform taken with ⟨command, next, answer, shared, program, performed, rfl⟩
      have own := opening.issued thread
      rw [program] at own
      rcases perform_cases performed with ⟨_, same⟩ | ⟨statement, reply, rfl, performs⟩
      · exact ⟨⟨same ▸ opening.composed, issued⟩, .inl same⟩
      · rcases opening.composed.performs own.1 performs with ⟨composed, accounts⟩
        exact ⟨⟨composed, issued⟩,
          .inr ⟨thread, choice, statement, next, reply, rfl, program, accounts⟩⟩

theorem Reachable.opening (reachable : Reachable config requests current) :
    Opening requests current := by
  rcases reachable with ⟨redis, now, run⟩
  refine run.invariant (Opening requests) ⟨⟨?_, ?_⟩, fun thread => issued_handle config _⟩
    fun _ _ _ opening _ taken => (opening.step taken).1
  · rintro _ _ ⟨⟩
  · rintro _ _ ⟨⟩

theorem Reachable.unbegun (reachable : Reachable config requests current) {thread : Thread}
    (fresh : current.begun thread = false) :
    current.program thread = (handle config (requests thread)).run := by
  cases reachable.sound.2 thread with
  | waiting _ program => exact program
  | running begun =>
      rw [fresh] at begun
      cases begun

/-- A call sets no status after its first step. -/
theorem Reachable.settled (reachable : Reachable config requests current) (thread : Thread)
    (begun : current.begun thread = true) : (current.program thread).Only Statusless := by
  rcases reachable with ⟨redis, now, run⟩
  have everywhere : Reachable config requests current ∧
      (current.begun thread = true → (current.program thread).Only Statusless) := by
    refine run.invariant (fun between => Reachable config requests between ∧
      (between.begun thread = true → (between.program thread).Only Statusless))
      ⟨⟨redis, now, .start⟩, fun absurd => by cases absurd⟩ ?_
    rintro between label next ⟨reachable, settled⟩ _ taken
    refine ⟨reachable.next taken, ?_⟩
    cases label with
    | environment event =>
        rcases Machine.step_environment taken with ⟨shared, _, rfl⟩
        exact settled
    | perform acting choice =>
        rcases Machine.step_perform taken with ⟨op, rest, answer, shared, program, _, rfl⟩
        by_cases same : thread = acting
        · subst same
          intro _
          simp only [Function.update_self]
          cases begun : between.begun thread with
          | true =>
              have only := settled begun
              rw [program] at only
              exact only.2 answer
          | false =>
              have started := reachable.unbegun begun
              cases asked : (requests thread).change? with
              | none =>
                  have only := (issued_handle config (requests thread)).mono
                    fun _ issued => issued.statusless asked
                  rw [← started, program] at only
                  exact only.2 answer
              | some asks =>
                  rcases change_begins asked config with ⟨following, begins, only, _⟩
                  rw [← started, program] at begins
                  cases begins
                  exact only answer
        · simpa [same] using settled
  exact everywhere.2 begun

end Runs

end BankingBackend
