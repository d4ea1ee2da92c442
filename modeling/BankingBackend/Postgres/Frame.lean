import BankingBackend.Postgres.Locking

/-! # What statements do and leave alone

Everything a statement can do, and what follows from it: inside a transaction a
statement leaves the committed rows alone, and only the update of a row's status
completes it.
-/

namespace BankingBackend.Postgres

namespace Statement

/-- A statement that goes on with the open transaction. -/
def Inner : Statement → Prop
  | .begin | .commit | .rollback => False
  | _ => True

def Leaves : (statement : Statement) → Except DatabaseError statement.Result → Prop
  | .transactionFindFirst _, _ | .transactionSum _, _ | .accountFindUnique _, _
  | .accountFindFirst _ _, _ | .accountFindMany _, _ => True
  | .accountUpdateMany _ _ _, answer => answer ≠ .ok 1
  | .commit, _ | .rollback, _ => False
  | _, .ok _ => False
  | _, .error _ => True

def Quiet : Statement → Prop
  | .transactionUpdate _ status => status ≠ .completed
  | .transactionCreate data => data.status ≠ .completed
  | _ => True

end Statement

theorem TransactionData.row_status {data : TransactionData} {id : Uuid} {now : ℕ}
    {row : Transaction} (valid : data.row id now = .ok row) : row.status = data.status := by
  rcases row_ok valid with ⟨_, _, _, _, _, _, rfl⟩
  rfl

theorem AccountUpdate.apply_id {data : AccountUpdate} {account written : Account}
    (applied : data.apply account = some written) : written.id = account.id := by
  cases data with
  | setStatus status =>
      cases applied
      rfl
  | increment | decrement =>
      rcases Option.map_eq_some_iff.mp applied with ⟨balance, _, rfl⟩
      rfl

namespace Server

variable {Thread : Type} [DecidableEq Thread] [Fintype Thread] {server after : Server Thread}
  {thread : Thread}

/-! ## Everything a statement can do -/

inductive Writes (server : Server Thread) (thread : Thread) :
    (statement : Statement) → Except DatabaseError statement.Result → (Tx → Tx) → Prop
  | accountFindUnique (text : String) (id : Uuid) (account : Account)
      (parsed : Uuid.parse? text = some id) (visible : server.visible thread id = some account)
      (tx : Tx) (opened : server.open_ thread = some tx) :
      Writes server thread (.accountFindUnique text) (.ok (some account)) (·.read account)
  | transactionCreate (data : TransactionData) (id : Uuid) (now : ℕ) (row : Transaction)
      (valid : data.row id now = .ok row)
      (others : ∀ other tx, other ≠ thread → server.open_ other = some tx →
        ∀ otherRow ∈ tx.transactions, row.Differs otherRow)
      (committed : ∀ committed ∈ server.database.transactions, row.Differs committed) :
      Writes server thread (.transactionCreate data) (.ok row) (·.insertTransaction row)
  | transactionUpdate (id : Uuid) (status : TransactionStatus) (tx : Tx) (row : Transaction)
      (opened : server.open_ thread = some tx) (member : row ∈ tx.transactions)
      (same : row.id = id) :
      Writes server thread (.transactionUpdate id status) (.ok { row with status })
        (·.setStatus id status)
  | accountCreate (customerId : Uuid) (currency : Currency) (id : Uuid) (createdAt : ℕ)
      (closed : server.open_ thread = none) (fresh : server.database.account? id = none)
      (unique : hasOpenAccount server.database customerId currency = false) :
      Writes server thread (.accountCreate customerId currency)
        (.ok ⟨id, customerId, .zero, currency, .active, createdAt⟩)
        (·.createAccount ⟨id, customerId, .zero, currency, .active, createdAt⟩)
  | accountUpdate (text : String) (data : AccountUpdate) (id : Uuid) (account written : Account)
      (parsed : Uuid.parse? text = some id) (visible : server.visible thread id = some account)
      (applied : data.apply account = some written)
      (free : ∀ other tx, other ≠ thread → server.open_ other = some tx → tx.accounts id = none) :
      Writes server thread (.accountUpdate text data) (.ok ()) (·.writeAccount written)
  | accountUpdateMany (text : String) (filter : AccountFilter) (data : AccountUpdate) (id : Uuid)
      (account written : Account) (parsed : Uuid.parse? text = some id)
      (visible : server.visible thread id = some account)
      (admitted : filter.admits account = true) (applied : data.apply account = some written)
      (free : ∀ other tx, other ≠ thread → server.open_ other = some tx → tx.accounts id = none) :
      Writes server thread (.accountUpdateMany text filter data) (.ok 1) (·.writeAccount written)
  | eventCreate (data : EventData) (id : Uuid) (createdAt : ℕ) :
      Writes server thread (.eventCreate data) (.ok ()) (·.insertEvent
        { id, type := data.type, payload := data.payload, status := data.status
          retryCount := 0, createdAt })
  | auditLogCreate (data : AuditLogData) (id entityId : Uuid) (timestamp : ℕ)
      (parsed : Uuid.parse? data.entityId = some entityId) :
      Writes server thread (.auditLogCreate data) (.ok ()) (·.insertAuditLog
        { id, action := data.action, customerId := data.customerId
          entityType := data.entityType, entityId, ipAddress := data.ipAddress
          userAgent := data.userAgent, timestamp })

inductive Performs (server : Server Thread) (thread : Thread) (statement : Statement)
    (answer : Except DatabaseError statement.Result) : Server Thread → Prop
  | same (leaves : statement.Leaves answer) : Performs server thread statement answer server
  | begins (begin_ : statement = .begin) (closed : server.open_ thread = none)
      (succeeds : answer.toBool = true) :
      Performs server thread statement answer (server.setOpen thread (some .empty))
  | commits (commit : statement = .commit) (tx : Tx) (opened : server.open_ thread = some tx)
      (succeeds : answer.toBool = true) :
      Performs server thread statement answer (server.commitTx thread tx)
  | closes (ends : statement = .rollback ∨ statement = .commit ∧ answer.toBool = false) :
      Performs server thread statement answer (server.setOpen thread none)
  | writes (change : Tx → Tx) (writes : Writes server thread statement answer change) :
      Performs server thread statement answer (server.write thread change)

theorem respond_performs {newId : Uuid} {now : ℕ} {statement : Statement}
    {answer : Except DatabaseError statement.Result}
    (responded : server.respond thread newId now statement = some (answer, after)) :
    Performs server thread statement answer after := by
  cases statement with
  | begin =>
      simp only [respond] at responded
      split at responded
      · cases responded
      · rename_i closed
        cases responded
        exact .begins rfl closed rfl
  | commit =>
      simp only [respond] at responded
      split at responded
      · rename_i tx opened
        cases responded
        exact .commits rfl tx opened rfl
      · cases responded
  | rollback =>
      cases responded
      exact .closes (.inl rfl)
  | transactionFindFirst | transactionSum | accountFindFirst | accountFindMany =>
      cases responded
      exact .same trivial
  | transactionCreate data =>
      rcases insertTransaction_cases responded with
        ⟨_, rfl, rfl⟩ | ⟨row, rfl, valid, others, committed, rfl⟩
      · exact .same trivial
      · exact .writes _ (.transactionCreate data newId now row valid others committed)
  | transactionUpdate id status =>
      simp only [respond] at responded
      split at responded
      · rename_i row found
        cases responded
        rcases Option.bind_eq_some_iff.mp found with ⟨tx, opened, listed⟩
        have same := List.find?_some listed
        exact .writes _ (.transactionUpdate id status tx row opened (List.mem_of_find?_eq_some listed)
          (by simpa using same))
      · cases responded
        exact .same trivial
  | accountFindUnique text =>
      simp only [respond] at responded
      split at responded
      · cases responded
        exact .same trivial
      · rename_i id parsed
        split at responded
        · cases responded
          exact .same trivial
        · rename_i account visible
          cases opened : server.open_ thread with
          | none =>
              rw [opened] at responded
              cases responded
              exact .same trivial
          | some tx =>
              rw [opened] at responded
              cases responded
              show Performs server thread _ _ (server.setOpen thread (some (tx.read account)))
              rw [← write_open opened (·.read account)]
              exact .writes _ (.accountFindUnique text id account parsed visible tx opened)
  | accountCreate customerId currency =>
      simp only [respond] at responded
      split at responded
      · cases responded
      · rename_i closed
        split at responded
        · cases responded
        · rename_i unused
          split at responded
          · cases responded
            exact .same trivial
          · rename_i unique
            cases responded
            exact .writes _ (.accountCreate customerId currency newId now closed
              (by simpa using unused) (by simpa using unique))
  | accountUpdate text data =>
      simp only [respond] at responded
      split at responded
      · cases responded
        exact .same trivial
      · rename_i id parsed
        split at responded
        · cases responded
        · cases responded
          exact .same trivial
        · cases responded
          exact .same trivial
        · rename_i updated
          cases responded
          rcases updateAccount_updated updated with
            ⟨account, written, visible, _, applied, free, rfl⟩
          exact .writes _ (.accountUpdate text data id account written parsed visible applied free)
  | accountUpdateMany text filter data =>
      simp only [respond] at responded
      split at responded
      · cases responded
        exact .same (by rintro ⟨⟩)
      · rename_i id parsed
        split at responded
        · cases responded
        · cases responded
          exact .same (by rintro ⟨⟩)
        · cases responded
          exact .same (by rintro ⟨⟩)
        · rename_i updated
          cases responded
          rcases updateAccount_updated updated with
            ⟨account, written, visible, admitted, applied, free, rfl⟩
          exact .writes _ (.accountUpdateMany text filter data id account written parsed visible
            admitted applied free)
  | eventCreate data =>
      cases responded
      exact .writes _ (.eventCreate data newId now)
  | auditLogCreate data =>
      simp only [respond] at responded
      split at responded
      · cases responded
        exact .same trivial
      · rename_i entityId parsed
        cases responded
        exact .writes _ (.auditLogCreate data newId entityId now parsed)

theorem perform_performs {failure : Option DatabaseError} {newId : Uuid} {now : ℕ}
    {statement : Statement} {answer : Except DatabaseError statement.Result}
    (performed : server.perform thread failure newId now statement = some (answer, after)) :
    Performs server thread statement answer after := by
  unfold perform at performed
  split at performed
  · exact respond_performs performed
  · split at performed
    · cases performed
    · cases performed
      cases statement with
      | commit => exact .closes (.inr ⟨rfl, rfl⟩)
      | rollback => exact .closes (.inl rfl)
      | accountUpdateMany => exact .same (by rintro ⟨⟩)
      | _ => exact .same trivial

omit [Fintype Thread] in
theorem Performs.other {server after : Server Thread} {other : Thread}
    {statement : Statement} {answer : Except DatabaseError statement.Result}
    (performs : Performs server other statement answer after) (different : thread ≠ other) :
    after.open_ thread = server.open_ thread := by
  cases performs with
  | same => rfl
  | begins => exact setOpen_other different _
  | commits => exact commitTx_other different _
  | closes => exact setOpen_other different _
  | writes change =>
      cases opened : server.open_ other with
      | some tx =>
          rw [write_open opened]
          exact setOpen_other different _
      | none =>
          rw [write_closed opened]
          exact commitTx_other different _

/-! ## Open transactions stay apart -/

omit [DecidableEq Thread] [Fintype Thread] in
theorem AllPending.visible_id (all : server.AllPending) {id : Uuid} {account : Account}
    (visible : server.visible thread id = some account) : account.id = id := by
  cases opened : server.open_ thread with
  | none =>
      rw [visible_closed opened] at visible
      exact Database.account?_id visible
  | some tx =>
      rw [visible_open opened] at visible
      rcases Option.map_eq_some_iff.mp visible with ⟨committed, found, rfl⟩
      rw [(all thread tx opened).keepsIds.version, Database.account?_id found]

omit [DecidableEq Thread] [Fintype Thread] in
theorem Writes.pending {statement : Statement} {answer : Except DatabaseError statement.Result}
    {change : Tx → Tx} (writes : Writes server thread statement answer change)
    (all : server.AllPending) {tx : Tx} (pending : server.Pending thread tx) :
    server.Pending thread (change tx) := by
  have kept {following : Tx} (rows : following.accounts = tx.accounts)
      (transactions : following.transactions = tx.transactions) :
      server.Pending thread following :=
    pending.mono rows fun row member => ⟨row, transactions ▸ member, rfl, rfl⟩
  cases writes with
  | transactionCreate data id now row valid others committed =>
      exact pending.insertTransaction others committed
  | transactionUpdate id status =>
      refine pending.mono rfl fun updated member => ?_
      rcases List.mem_map.mp member with ⟨row, rowMember, rfl⟩
      refine ⟨row, rowMember, ?_⟩
      split <;> exact ⟨rfl, rfl⟩
  | accountUpdate text data id account written parsed visible applied free =>
      have same := (AccountUpdate.apply_id applied).trans (all.visible_id visible)
      exact pending.writeAccount (same.symm ▸ free)
  | accountUpdateMany text filter data id account written parsed visible admitted applied free =>
      have same := (AccountUpdate.apply_id applied).trans (all.visible_id visible)
      exact pending.writeAccount (same.symm ▸ free)
  | _ => exact kept rfl rfl

omit [Fintype Thread] in
/-- No statement lets two open transactions write one row or insert one key. -/
theorem Performs.allPending {statement : Statement}
    {answer : Except DatabaseError statement.Result}
    (performs : Performs server thread statement answer after) (all : server.AllPending) :
    after.AllPending := by
  cases performs with
  | same => exact all
  | begins =>
      refine all.setOpen ?_
      rintro _ ⟨⟩
      exact pending_of_empty rfl rfl
  | commits _ tx opened => exact all.commitTx (all thread tx opened)
  | closes => exact all.setOpen (by rintro _ ⟨⟩)
  | writes change writes =>
      cases opened : server.open_ thread with
      | some tx =>
          rw [write_open opened]
          refine all.setOpen ?_
          rintro _ ⟨⟩
          exact writes.pending all (all thread tx opened)
      | none =>
          rw [write_closed opened]
          exact all.commitTx (writes.pending all (pending_of_empty rfl rfl))

/-! ## Completed rows -/

def CompletesNone (change : Tx → Tx) : Prop :=
  ∀ tx, ∀ row ∈ (change tx).transactions, row ∈ tx.transactions ∨ row.status ≠ .completed

inductive Responds (server : Server Thread) (thread : Thread) (statement : Statement) :
    Server Thread → Prop
  | same : Responds server thread statement server
  | begins (begin_ : statement = .begin) :
      Responds server thread statement (server.setOpen thread (some .empty))
  | commits (commit : statement = .commit) (tx : Tx) (opened : server.open_ thread = some tx) :
      Responds server thread statement (server.commitTx thread tx)
  | closes (rollback : statement = .rollback) :
      Responds server thread statement (server.setOpen thread none)
  | writes (change : Tx → Tx)
      (quiet : statement.Quiet → CompletesNone change) :
      Responds server thread statement (server.write thread change)

theorem completesNone_of_same {change : Tx → Tx}
    (same : ∀ tx, (change tx).transactions = tx.transactions) : CompletesNone change :=
  fun tx _ member => .inl (same tx ▸ member)

omit [DecidableEq Thread] [Fintype Thread] in
/-- Only a completed row that is created, or the update of a row's status, completes one. -/
theorem Writes.completesNone {statement : Statement}
    {answer : Except DatabaseError statement.Result} {change : Tx → Tx}
    (writes : Writes server thread statement answer change) (quiet : statement.Quiet) :
    CompletesNone change := by
  cases writes with
  | transactionCreate data id now row valid =>
      intro tx inserted member
      rcases List.mem_append.mp member with old | new
      · exact .inl old
      · rw [List.mem_singleton.mp new, TransactionData.row_status valid]
        exact .inr quiet
  | transactionUpdate id status =>
      intro tx updated member
      rcases List.mem_map.mp member with ⟨old, oldMember, rfl⟩
      split
      · exact .inr quiet
      · exact .inl oldMember
  | _ => exact completesNone_of_same fun _ => rfl

omit [Fintype Thread] in
theorem Performs.responds {statement : Statement}
    {answer : Except DatabaseError statement.Result}
    (performs : Performs server thread statement answer after) :
    Responds server thread statement after ∨
      ¬statement.Inner ∧ after = server.setOpen thread none := by
  cases performs with
  | same => exact .inl .same
  | begins begin_ => exact .inl (.begins begin_)
  | commits commit tx opened => exact .inl (.commits commit tx opened)
  | closes ends =>
      rcases ends with rollback | ⟨rfl, _⟩
      · exact .inl (.closes rollback)
      · exact .inr ⟨id, rfl⟩
  | writes change writes => exact .inl (.writes change writes.completesNone)

omit [Fintype Thread] in
theorem Performs.rows {statement : Statement} {answer : Except DatabaseError statement.Result}
    (performs : Performs server thread statement answer after) :
    ∃ rows, after.database.transactions = server.database.transactions ++ rows := by
  cases performs with
  | same => exact ⟨[], by simp⟩
  | begins => exact ⟨[], by simp [setOpen]⟩
  | commits _ tx => exact ⟨tx.transactions, rfl⟩
  | closes => exact ⟨[], by simp [setOpen]⟩
  | writes change =>
      cases opened : server.open_ thread with
      | some tx => exact ⟨[], by simp [write_open opened, setOpen]⟩
      | none => exact ⟨(change .empty).transactions, by rw [write_closed opened]; rfl⟩

theorem perform_responds {failure : Option DatabaseError} {newId : Uuid} {now : ℕ}
    {statement : Statement} {answer : Except DatabaseError statement.Result}
    (performed : server.perform thread failure newId now statement = some (answer, after)) :
    Responds server thread statement after ∨
      ¬statement.Inner ∧ after = server.setOpen thread none :=
  (perform_performs performed).responds

def Uncompleted (thread : Thread) (server : Server Thread) : Prop :=
  ∀ tx, server.open_ thread = some tx → ∀ row ∈ tx.transactions, row.status ≠ .completed

omit [Fintype Thread] in
theorem uncompleted_setOpen {tx : Option Tx}
    (uncompleted : ∀ current, tx = some current →
      ∀ row ∈ current.transactions, row.status ≠ .completed) :
    (server.setOpen thread tx).Uncompleted thread := by
  intro current opened
  rw [setOpen_open] at opened
  exact uncompleted current opened

omit [Fintype Thread] in
theorem uncompleted_commitTx (tx : Tx) : (server.commitTx thread tx).Uncompleted thread := by
  intro current opened
  rw [commitTx_open] at opened
  cases opened

omit [Fintype Thread] in
/-- A quiet statement completes no row, neither in the open transaction nor among the
committed ones. -/
theorem Responds.quiet {statement : Statement} (responds : Responds server thread statement after)
    (quiet : statement.Quiet) (uncompleted : server.Uncompleted thread) :
    after.Uncompleted thread ∧ ∃ rows : List Transaction,
      after.database.transactions = server.database.transactions ++ rows ∧
        ∀ row ∈ rows, row.status ≠ .completed := by
  have none : ∀ database : Database, ∃ rows : List Transaction,
      database.transactions = database.transactions ++ rows ∧
        ∀ row ∈ rows, row.status ≠ .completed := fun database => ⟨[], by simp, by simp⟩
  cases responds with
  | same => exact ⟨uncompleted, none _⟩
  | begins =>
      refine ⟨uncompleted_setOpen ?_, none _⟩
      rintro _ ⟨⟩ row member
      cases member
  | commits _ tx opened =>
      exact ⟨uncompleted_commitTx tx, tx.transactions, rfl, uncompleted tx opened⟩
  | closes => exact ⟨uncompleted_setOpen (fun _ absurd => by cases absurd), none _⟩
  | writes change completesNone =>
      cases opened : server.open_ thread with
      | some tx =>
          rw [write_open opened]
          refine ⟨uncompleted_setOpen ?_, none _⟩
          rintro _ ⟨⟩ row member
          exact (completesNone quiet tx row member).elim (uncompleted tx opened row) id
      | none =>
          rw [write_closed opened]
          refine ⟨uncompleted_commitTx _, (change .empty).transactions, rfl, ?_⟩
          intro row member
          exact (completesNone quiet .empty row member).elim (fun old => by cases old) id

omit [Fintype Thread] in
theorem Responds.inner {statement : Statement} (responds : Responds server thread statement after)
    (inner : statement.Inner) {tx : Tx} (opened : server.open_ thread = some tx) :
    after.database = server.database ∧ ∃ following, after.open_ thread = some following := by
  cases responds with
  | same => exact ⟨rfl, tx, opened⟩
  | begins begin_ => exact absurd inner (by rw [begin_]; exact id)
  | commits commit => exact absurd inner (by rw [commit]; exact id)
  | closes rollback => exact absurd inner (by rw [rollback]; exact id)
  | writes change =>
      rw [write_open opened]
      exact ⟨rfl, change tx, setOpen_open _⟩

/-! ## Events -/

/-- All events, committed or in an open transaction, have such a payload. -/
structure Events (property : TransactionEventPayload → Prop) (server : Server Thread) : Prop where
  committed : ∀ event ∈ server.database.events, property event.payload
  opened : ∀ thread tx, server.open_ thread = some tx → ∀ event ∈ tx.events,
    property event.payload

variable {property : TransactionEventPayload → Prop}

omit [Fintype Thread] in
theorem Events.setOpen (events : server.Events property) {tx : Option Tx}
    (own : ∀ current, tx = some current → ∀ event ∈ current.events, property event.payload) :
    (server.setOpen thread tx).Events property where
  committed := events.committed
  opened other current opened := by
    by_cases same : other = thread
    · subst same
      rw [setOpen_open] at opened
      exact own current opened
    · rw [setOpen_other same] at opened
      exact events.opened other current opened

omit [Fintype Thread] in
theorem Events.commitTx (events : server.Events property) {tx : Tx}
    (own : ∀ event ∈ tx.events, property event.payload) :
    (server.commitTx thread tx).Events property where
  committed event member := by
    rcases List.mem_append.mp member with old | new
    · exact events.committed event old
    · exact own event new
  opened other current opened := by
    by_cases same : other = thread
    · subst same
      rw [commitTx_open] at opened
      cases opened
    · rw [commitTx_other same] at opened
      exact events.opened other current opened

omit [Fintype Thread] in
theorem Events.write (events : server.Events property) {change : Tx → Tx}
    (keeps : ∀ tx, ∀ event ∈ (change tx).events, event ∈ tx.events ∨ property event.payload) :
    (server.write thread change).Events property := by
  cases opened : server.open_ thread with
  | some tx =>
      rw [write_open opened]
      refine events.setOpen ?_
      rintro _ ⟨⟩ event member
      exact (keeps tx event member).elim (events.opened thread tx opened event) id
  | none =>
      rw [write_closed opened]
      refine events.commitTx fun event member => ?_
      exact (keeps .empty event member).elim (fun old => by cases old) id

/-- Only `eventCreate` creates an event. -/
theorem perform_events {failure : Option DatabaseError} {newId : Uuid} {now : ℕ}
    {statement : Statement} {answer : Except DatabaseError statement.Result}
    (events : server.Events property)
    (created : ∀ data, statement = .eventCreate data → property data.payload)
    (performed : server.perform thread failure newId now statement = some (answer, after)) :
    after.Events property := by
  cases perform_performs performed with
  | same => exact events
  | begins =>
      refine events.setOpen ?_
      rintro _ ⟨⟩ event member
      cases member
  | commits _ tx opened => exact events.commitTx (events.opened thread tx opened)
  | closes => exact events.setOpen (by rintro _ ⟨⟩)
  | writes change writes =>
      refine events.write fun tx event member => ?_
      cases writes with
      | eventCreate data =>
          rcases List.mem_append.mp member with old | new
          · exact .inl old
          · rcases List.mem_singleton.mp new with rfl
            exact .inr (created data rfl)
      | _ => exact .inl member

end Server

end BankingBackend.Postgres
