import BankingBackend.Calls.Interleaving
import BankingBackend.Calls.Journal

/-! # The journals of an interleaving

Every call's journal is that of its transactions in the server, and the accounts of
every row it writes exist.
-/

namespace BankingBackend

open Foundation Foundation.Program Postgres Common Fraud Transactions

def Postgres.Database.References (database : Database) (row : Transaction) : Prop :=
  ∀ id, row.fromAccountId = some id ∨ row.toAccountId = some id → (database.account? id).isSome

/-- The journal is that of the thread's transactions in the server. -/
structure Journals {Thread : Type} [DecidableEq Thread] (thread : Thread) (journal : Journal)
    (server : Server Thread) : Prop where
  pending : server.AllPending
  opened : (server.open_ thread).map Tx.transactions = journal.open_
  commits : (server.log.filter (·.thread = thread)).map (·.tx.transactions) = journal.commits
  references : ∀ row ∈ journal.rows, server.database.References row

section Runs

variable {Thread : Type} [DecidableEq Thread] [Fintype Thread] {config : FraudConfig}
  {requests : Thread → Request} {thread other : Thread} {journal : Journal}
  {server after : Server Thread}

theorem Postgres.Statement.journal_leaves (journal : Journal) {statement : Statement}
    {answer : Except DatabaseError statement.Result} (leaves : statement.Leaves answer) :
    statement.journal journal answer = journal ∧ statement.Tells journal answer := by
  cases statement with
  | commit | rollback => exact leaves.elim
  | accountUpdateMany text filter data =>
      cases answer with
      | error error => exact ⟨rfl, trivial⟩
      | ok count => exact ⟨if_neg fun one => leaves (congrArg Except.ok one), trivial⟩
  | transactionFindFirst | transactionSum | accountFindUnique | accountFindFirst
  | accountFindMany => exact ⟨rfl, trivial⟩
  | _ =>
      cases answer with
      | error error => exact ⟨rfl, trivial⟩
      | ok value => exact leaves.elim

omit [DecidableEq Thread] [Fintype Thread] in
theorem Postgres.Server.Writes.journals {statement : Statement}
    {answer : Except DatabaseError statement.Result} {change : Tx → Tx}
    (writes : Server.Writes server thread statement answer change)
    (opened : (server.open_ thread).map Tx.transactions = journal.open_) :
    statement.Tells journal answer ∧ ∃ rows : List Transaction → List Transaction,
      (∀ tx, (change tx).transactions = rows tx.transactions) ∧
      statement.journal journal answer = journal.write rows := by
  cases writes with
  | accountFindUnique text named account parsed visible tx own =>
      refine ⟨trivial, id, fun _ => rfl, ?_⟩
      rw [own] at opened
      rcases journal with ⟨_, commits⟩
      cases opened
      rfl
  | transactionCreate data id now row valid =>
      exact ⟨⟨id, now, valid⟩, (· ++ [row]), fun _ => rfl, rfl⟩
  | transactionUpdate id status tx row own member same =>
      refine ⟨⟨tx.transactions, ?_, row, member, same, rfl⟩, _, fun _ => rfl, rfl⟩
      rw [← opened, own]
      rfl
  | accountUpdateMany => exact ⟨trivial, id, fun _ => rfl, rfl⟩
  | _ => exact ⟨trivial, id, fun _ => rfl, rfl⟩

omit [Fintype Thread] in
theorem Postgres.Server.Performs.journals {statement : Statement}
    {answer : Except DatabaseError statement.Result}
    (performs : Server.Performs server thread statement answer after)
    (opened : (server.open_ thread).map Tx.transactions = journal.open_)
    (commits : (server.log.filter (·.thread = thread)).map (·.tx.transactions) =
      journal.commits) :
    statement.Tells journal answer ∧
    (after.open_ thread).map Tx.transactions = (statement.journal journal answer).open_ ∧
    (after.log.filter (·.thread = thread)).map (·.tx.transactions) =
      (statement.journal journal answer).commits := by
  cases performs with
  | same leaves =>
      rcases Statement.journal_leaves journal leaves with ⟨same, tells⟩
      rw [same]
      exact ⟨tells, opened, commits⟩
  | begins begin_ _ succeeds =>
      subst begin_
      cases answer with
      | error error => cases succeeds
      | ok value => exact ⟨trivial, by simp [Statement.journal, Tx.empty], commits⟩
  | commits commit tx own succeeds =>
      subst commit
      cases answer with
      | error error => cases succeeds
      | ok value =>
          refine ⟨trivial, by simp [Statement.journal], ?_⟩
          simp [Statement.journal, ← opened, ← commits, own, List.filter_append]
  | closes ends =>
      rcases ends with rfl | ⟨rfl, fails⟩
      · exact ⟨trivial, by simp [Statement.journal], commits⟩
      · cases answer with
        | error error => exact ⟨trivial, by simp [Statement.journal], commits⟩
        | ok value => cases fails
  | writes change writes =>
      rcases writes.journals opened with ⟨tells, rows, changes, written⟩
      rw [written]
      refine ⟨tells, ?_⟩
      cases own : server.open_ thread with
      | some tx =>
          have started : journal.open_ = some tx.transactions := by rw [← opened, own]; rfl
          rw [Server.write_open own]
          simp [Journal.write, started, changes, commits]
      | none =>
          have unstarted : journal.open_ = none := by rw [← opened, own]; rfl
          rw [Server.write_closed own]
          simp [Journal.write, unstarted, changes, ← commits, List.filter_append, Tx.empty]

omit [Fintype Thread] in
/-- The transactions of another thread are no part of the journal. -/
theorem Postgres.Server.Performs.journals_other {statement : Statement}
    {answer : Except DatabaseError statement.Result}
    (performs : Server.Performs server other statement answer after) (different : thread ≠ other) :
    after.log.filter (·.thread = thread) = server.log.filter (·.thread = thread) := by
  have committed (tx : Tx) : (server.commitTx other tx).log.filter (·.thread = thread) =
      server.log.filter (·.thread = thread) := by
    simp [List.filter_append, Ne.symm different]
  cases performs with
  | commits _ tx => exact committed tx
  | writes change =>
      cases opened : server.open_ other with
      | some tx =>
          rw [Server.write_open opened]
          rfl
      | none =>
          rw [Server.write_closed opened]
          exact committed _
  | _ => rfl

omit [DecidableEq Thread] [Fintype Thread] in
theorem Postgres.Server.Pending.persists {tx : Tx} (pending : server.Pending thread tx) {id : Uuid}
    (found : (server.database.account? id).isSome) :
    ((tx.applyTo server.database).account? id).isSome := by
  rw [pending.keepsIds.account?_applyTo]
  rcases Option.isSome_iff_exists.mp found with ⟨account, found⟩
  simp [found]

omit [Fintype Thread] in
theorem Postgres.Server.Performs.persists {statement : Statement}
    {answer : Except DatabaseError statement.Result}
    (performs : Server.Performs server thread statement answer after) (all : server.AllPending)
    {id : Uuid} (found : (server.database.account? id).isSome) :
    (after.database.account? id).isSome := by
  cases performs with
  | commits _ tx opened => exact (all thread tx opened).persists found
  | writes change writes =>
      cases opened : server.open_ thread with
      | some tx =>
          rw [Server.write_open opened]
          exact found
      | none =>
          rw [Server.write_closed opened]
          exact (writes.pending all (Server.pending_of_empty rfl rfl)).persists found
  | _ => exact found

omit [DecidableEq Thread] [Fintype Thread] in
theorem visible_isSome (thread : Thread) {id : Uuid} :
    (server.visible thread id).isSome = (server.database.account? id).isSome := by
  cases opened : server.open_ thread with
  | none => rw [Server.visible_closed opened]
  | some tx => rw [Server.visible_open opened, Option.isSome_map]

theorem perform_references {failure : Option DatabaseError} {newId : Uuid} {now : ℕ}
    {data : TransactionData} {row : Transaction}
    (performed : server.perform thread failure newId now (.transactionCreate data) =
      some (.ok row, after)) : server.database.References row := by
  unfold Server.perform at performed
  split at performed
  · have referenced := Server.insertTransaction_referenced performed
    intro id named
    rw [← visible_isSome thread]
    rcases named with named | named
    · have exists_ := referenced.1
      rwa [named] at exists_
    · have exists_ := referenced.2
      rwa [named] at exists_
  · split at performed
    · cases performed
    · cases performed

theorem mem_rows_write {change : List Transaction → List Transaction} {row : Transaction}
    (member : row ∈ (journal.write change).rows) :
    row ∈ journal.rows ∨ row ∈ change (journal.open_.getD []) := by
  rcases journal with ⟨_ | rows, commits⟩
  · simp only [Journal.write, Journal.rows, Option.getD_none, List.nil_append,
      List.flatten_append, List.mem_append, List.flatten_singleton] at member ⊢
    exact member
  · simp only [Journal.write, Journal.rows, Option.getD_some, List.mem_append] at member ⊢
    exact member.elim .inr fun old => .inl (.inr old)

theorem Journal.mem_open {row : Transaction} (member : row ∈ journal.open_.getD []) :
    row ∈ journal.rows := List.mem_append_left _ member

/-- Every row of the journal was there before, but for its status, or is a new one. -/
theorem Postgres.Statement.mem_journal {statement : Statement}
    {answer : Except DatabaseError statement.Result} {row : Transaction}
    (member : row ∈ (statement.journal journal answer).rows) :
    (∃ old ∈ journal.rows, row.fromAccountId = old.fromAccountId ∧
      row.toAccountId = old.toAccountId) ∨ statement.Creates row answer := by
  have same (old : row ∈ journal.rows) : ∃ old ∈ journal.rows,
      row.fromAccountId = old.fromAccountId ∧ row.toAccountId = old.toAccountId :=
    ⟨row, old, rfl, rfl⟩
  have committed (old : row ∈ journal.commits.flatten) : row ∈ journal.rows :=
    List.mem_append_right _ old
  cases statement with
  | begin =>
      cases answer with
      | error error => exact .inl (same member)
      | ok value => exact .inl (same (committed member))
  | commit =>
      cases answer with
      | error error => exact .inl (same (committed member))
      | ok value =>
          simp only [Statement.journal, Journal.rows, Option.getD_none, List.nil_append,
            List.flatten_append, List.flatten_singleton, List.mem_append] at member
          exact .inl (same (member.elim committed Journal.mem_open))
  | rollback => exact .inl (same (committed member))
  | transactionCreate data =>
      cases answer with
      | error error => exact .inl (same member)
      | ok created =>
          rcases mem_rows_write member with old | new
          · exact .inl (same old)
          · rcases List.mem_append.mp new with old | new
            · exact .inl (same (Journal.mem_open old))
            · exact .inr (List.mem_singleton.mp new)
  | transactionUpdate id status =>
      cases answer with
      | error error => exact .inl (same member)
      | ok updated =>
          rcases mem_rows_write member with old | new
          · exact .inl (same old)
          · rcases List.mem_map.mp new with ⟨old, oldMember, rfl⟩
            refine .inl ⟨old, Journal.mem_open oldMember, ?_⟩
            split <;> exact ⟨rfl, rfl⟩
  | _ =>
      rcases journal_rowless journal (by trivial) answer with unchanged | written
      · exact .inl (same (unchanged ▸ member))
      · rw [written] at member
        exact .inl (same ((mem_rows_write member).elim id Journal.mem_open))

theorem Postgres.Database.References.of_same {database : Database} {row old : Transaction}
    (references : database.References old) (debit : row.fromAccountId = old.fromAccountId)
    (credit : row.toAccountId = old.toAccountId) : database.References row := by
  intro id named
  exact references id (by rwa [debit, credit] at named)

theorem journalMonitor_reflects : Monitor.Reflects (fun _ => journalMonitor) (machine Thread)
    (fun thread journal world => Journals thread journal world.server) where
  acts := by
    intro thread journal command choice world answer after journals _ performed
    by_cases query : ∃ statement, command = .query statement
    · rcases query with ⟨statement, rfl⟩
      rcases Option.map_eq_some_iff.mp performed with ⟨⟨reply, server⟩, done, equal⟩
      cases equal
      have performs := Server.perform_performs done
      rcases performs.journals journals.opened journals.commits with ⟨tells, opened, commits⟩
      refine ⟨_, ⟨rfl, tells⟩, performs.allPending journals.pending, opened, commits, ?_⟩
      intro row member id named
      refine performs.persists journals.pending ?_
      rcases Statement.mem_journal member with ⟨old, oldMember, debit, credit⟩ | created
      · exact (journals.references old oldMember).of_same debit credit id named
      · cases statement with
        | transactionCreate data =>
            cases answer with
            | error error => exact created.elim
            | ok row =>
                rcases (show _ = row from created) with rfl
                exact perform_references done id named
        | _ => exact created.elim
    · have other : ∀ statement, command ≠ .query statement :=
        fun statement same => query ⟨statement, same⟩
      refine ⟨journal, ?_, perform_server other performed ▸ journals⟩
      cases command with
      | query statement => exact absurd rfl (other statement)
      | _ => exact ⟨rfl, trivial⟩
  others := by
    intro thread other journal command choice world answer after different journals performed
    rcases perform_cases performed with ⟨_, same⟩ | ⟨statement, reply, rfl, performs⟩
    · exact same ▸ journals
    · exact
        { pending := performs.allPending journals.pending
          opened := by rw [performs.other different, journals.opened]
          commits := by rw [performs.journals_other different, journals.commits]
          references := fun row member id named =>
            performs.persists journals.pending (journals.references row member id named) }
  environment := by
    intro thread journal event world after journals happened
    exact environment_server happened ▸ journals

theorem Reachable.journals {current : Configuration Thread}
    (reachable : Reachable config requests current) (thread : Thread) :
    ∃ journal, Journals thread journal current.shared.server ∧
      journalMonitor.Follows AccountedCall (current.program thread) journal := by
  rcases reachable with ⟨redis, now, run⟩
  have start : Monitor.Tracks (fun _ => journalMonitor)
      (fun thread journal world => Journals thread journal world.server) (fun _ => AccountedCall)
      (initial config requests redis now) := by
    intro thread
    refine ⟨.empty, ⟨?_, rfl, rfl, fun _ absurd => by cases absurd⟩,
      journal_handle config (requests thread)⟩
    intro thread tx opened
    cases opened
  exact start.run journalMonitor_reflects run thread

/-- A call that has committed a row ends with the answer to a repeated request. -/
theorem Reachable.accounted {current : Configuration Thread} {result : CallResult}
    (reachable : Reachable config requests current) (ended : current.program thread = .done result)
    {commit : Commit Thread} (member : commit ∈ current.shared.server.log)
    (own : commit.thread = thread) {row : Transaction} (rowMember : row ∈ commit.tx.transactions) :
    result = .transaction <$> replay row := by
  rcases reachable.journals thread with ⟨journal, journals, follows⟩
  rw [ended] at follows
  refine follows commit.tx.transactions ?_ row rowMember
  rw [← journals.commits]
  exact List.mem_map.mpr ⟨commit, List.mem_filter.mpr ⟨member, by simpa using own⟩, rfl⟩

end Runs

end BankingBackend
