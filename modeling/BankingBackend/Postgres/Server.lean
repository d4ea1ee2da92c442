import BankingBackend.Postgres.Statement
import Mathlib.Data.Fintype.Basic
import Mathlib.Logic.Function.Basic

/-! # The database server

Committed rows and open transactions at READ COMMITTED. A transaction keeps the
row versions it wrote to itself until it commits; a written row stays locked, and
so does the unique key of an inserted row. An update looks at the latest
committed version of its row, or at the transaction's own.
-/

namespace BankingBackend.Postgres

structure Database where
  accounts : List Account
  transactions : List Transaction
  events : List Event
  auditLogs : List AuditLog

namespace Database

def empty : Database := ⟨[], [], [], []⟩

def account? (database : Database) (id : Uuid) : Option Account :=
  database.accounts.find? fun account => account.id == id

/-- The balance of an account, in cents. -/
def cents (database : Database) (id : Uuid) : ℤ :=
  ((database.account? id).map fun account => account.balance.cents).getD 0

end Database

/-- What an open transaction has read and written. `accounts` holds the row
versions it wrote, which lock their rows. -/
structure Tx where
  reads : List Account
  accounts : Uuid → Option Account
  createdAccounts : List Account
  transactions : List Transaction
  events : List Event
  auditLogs : List AuditLog

namespace Tx

def empty : Tx := ⟨[], fun _ => none, [], [], [], []⟩

def version (tx : Tx) (account : Account) : Account :=
  (tx.accounts account.id).getD account

def applyTo (tx : Tx) (database : Database) : Database where
  accounts := database.accounts.map tx.version ++ tx.createdAccounts
  transactions := database.transactions ++ tx.transactions
  events := database.events ++ tx.events
  auditLogs := database.auditLogs ++ tx.auditLogs

def read (tx : Tx) (account : Account) : Tx := { tx with reads := tx.reads ++ [account] }

def writeAccount (tx : Tx) (account : Account) : Tx :=
  { tx with accounts := Function.update tx.accounts account.id (some account) }

def createAccount (tx : Tx) (account : Account) : Tx :=
  { tx with createdAccounts := tx.createdAccounts ++ [account] }

def insertTransaction (tx : Tx) (transaction : Transaction) : Tx :=
  { tx with transactions := tx.transactions ++ [transaction] }

def setStatus (tx : Tx) (id : Uuid) (status : TransactionStatus) : Tx :=
  { tx with transactions := tx.transactions.map fun transaction =>
      if transaction.id = id then { transaction with status } else transaction }

def insertEvent (tx : Tx) (event : Event) : Tx := { tx with events := tx.events ++ [event] }

def insertAuditLog (tx : Tx) (auditLog : AuditLog) : Tx :=
  { tx with auditLogs := tx.auditLogs ++ [auditLog] }

def holdsKey (tx : Tx) (key : TransactionKey) : Bool :=
  tx.transactions.any fun transaction => transaction.key == key

end Tx

structure Commit (Thread : Type) where
  thread : Thread
  tx : Tx

/-- Each thread has at most one transaction open at a time. -/
structure Server (Thread : Type) where
  database : Database
  open_ : Thread → Option Tx
  log : List (Commit Thread)

namespace Server

variable {Thread : Type}

def initial : Server Thread := ⟨.empty, fun _ => none, []⟩

section Writes

variable [DecidableEq Thread] (thread : Thread) (server : Server Thread)

def setOpen (tx : Option Tx) : Server Thread :=
  { server with open_ := Function.update server.open_ thread tx }

def commitTx (tx : Tx) : Server Thread where
  database := tx.applyTo server.database
  open_ := Function.update server.open_ thread none
  log := server.log ++ [⟨thread, tx⟩]

/-- Write in the open transaction, or else in one of its own. -/
def write (change : Tx → Tx) : Server Thread :=
  match server.open_ thread with
  | some tx => server.setOpen thread (some (change tx))
  | none => server.commitTx thread (change .empty)

/-- The row as the thread sees it: its own version or the committed one. -/
def visible (id : Uuid) : Option Account :=
  match server.open_ thread with
  | some tx => (server.database.account? id).map tx.version
  | none => server.database.account? id

/-- Whether the test holds of another thread's open transaction. -/
def HeldByOther (test : Tx → Bool) : Prop :=
  ∃ other, other ≠ thread ∧ (server.open_ other).any test = true

instance [Fintype Thread] (test : Tx → Bool) :
    Decidable (server.HeldByOther thread test) :=
  inferInstanceAs (Decidable (∃ other, other ≠ thread ∧ _))

end Writes

/-- The transactions table with the rows no other transaction sees yet. -/
def idInUse [Fintype Thread] (server : Server Thread) (id : Uuid) : Bool :=
  server.database.transactions.any (fun transaction => transaction.id == id) ||
    decide (∃ thread, (server.open_ thread).any
      (fun tx => tx.transactions.any fun transaction => transaction.id == id) = true)

/-! ## Updates of one account row -/

inductive UpdateResult (Thread : Type)
  | blocked
  | skipped
  | overflow
  | updated (server : Server Thread)

section Execution

variable [DecidableEq Thread] [Fintype Thread] (thread : Thread)

/-- A row that another transaction has written is waited for when its committed
version meets the filter, and skipped otherwise. -/
def updateAccount (server : Server Thread) (id : Uuid) (filter : AccountFilter)
    (data : AccountUpdate) : UpdateResult Thread :=
  if server.HeldByOther thread fun tx => (tx.accounts id).isSome then
    match server.database.account? id with
    | some committed => if filter.admits committed then .blocked else .skipped
    | none => .skipped
  else
    match server.visible thread id with
    | none => .skipped
    | some account =>
        if filter.admits account then
          match data.apply account with
          | some written => .updated (server.write thread (·.writeAccount written))
          | none => .overflow
        else .skipped

/-! ## Inserting a transaction row -/

def referenced (server : Server Thread) : Option Uuid → Bool
  | none => true
  | some id => (server.visible thread id).isSome

/-- The insert waits while another transaction holds its key uncommitted. -/
def insertTransaction (server : Server Thread) (data : TransactionData) (id : Uuid)
    (now : ℕ) : Option (Except DatabaseError Transaction × Server Thread) :=
  match data.row id now with
  | .error error => some (.error error, server)
  | .ok row =>
      if server.idInUse id then none
      else if server.HeldByOther thread (·.holdsKey row.key) then none
      else if server.database.transactions.any (·.key == row.key) ||
          (server.open_ thread).any (·.holdsKey row.key) then
        some (.error .uniqueViolation, server)
      else if server.referenced thread row.fromAccountId &&
          server.referenced thread row.toAccountId then
        some (.ok row, server.write thread (·.insertTransaction row))
      else some (.error .foreignKeyViolation, server)

/-! ## Executing a statement -/

/-- A partial unique index admits one account per customer and currency that is
not closed. -/
def hasOpenAccount (database : Database) (customerId : Uuid) (currency : Currency) : Bool :=
  database.accounts.any fun account =>
    account.customerId == customerId && account.currency == currency &&
      account.status != .closed

def findFirstAccount (server : Server Thread) (filter : AccountFilter) :
    Option String → Except DatabaseError (Option Account)
  | none => .ok (server.database.accounts.find? filter.admits)
  | some text =>
      match Uuid.parse? text with
      | none => .error .invalidIdentifier
      | some id => .ok ((server.visible thread id).filter filter.admits)

def sumOf (transactions : List Transaction) : Option ℚ :=
  if transactions.isEmpty then none
  else some ((transactions.map fun transaction => transaction.amount.toRat).sum)

/-- The server's answer to a statement that does not fail, with the random `id`
of a row it inserts. No answer: the statement waits for a lock, or `id` is taken. -/
def respond (server : Server Thread) (newId : Uuid) (now : ℕ) :
    (statement : Statement) → Option (Except DatabaseError statement.Result × Server Thread)
  | .begin =>
      match server.open_ thread with
      | some _ => none
      | none => some (.ok (), server.setOpen thread (some .empty))
  | .commit =>
      match server.open_ thread with
      | some tx => some (.ok (), server.commitTx thread tx)
      | none => none
  | .rollback => some (.ok (), server.setOpen thread none)
  | .transactionFindFirst key =>
      some (.ok (server.database.transactions.find? fun transaction =>
        transaction.key == key), server)
  | .transactionCreate data => server.insertTransaction thread data newId now
  | .transactionUpdate id status =>
      match (server.open_ thread).bind fun tx =>
          tx.transactions.find? fun transaction => transaction.id == id with
      | some transaction =>
          some (.ok { transaction with status }, server.write thread (·.setStatus id status))
      | none => some (.error .recordNotFound, server)
  | .transactionSum filter =>
      some (.ok (sumOf (server.database.transactions.filter filter.admits)), server)
  | .accountFindUnique text =>
      match Uuid.parse? text with
      | none => some (.error .invalidIdentifier, server)
      | some id =>
          match server.visible thread id with
          | none => some (.ok none, server)
          | some account => some (.ok (some account),
              match server.open_ thread with
              | some tx => server.setOpen thread (some (tx.read account))
              | none => server)
  | .accountFindFirst text filter => some (server.findFirstAccount thread filter text, server)
  | .accountFindMany filter =>
      some (.ok (server.database.accounts.filter filter.admits), server)
  | .accountCreate customerId currency =>
      match server.open_ thread with
      | some _ => none
      | none =>
          if (server.database.account? newId).isSome then none
          else if hasOpenAccount server.database customerId currency then
            some (.error .uniqueViolation, server)
          else
            let account : Account :=
              { id := newId, customerId, balance := .zero, currency
                status := .active, createdAt := now }
            some (.ok account, server.write thread (·.createAccount account))
  | .accountUpdate text data =>
      match Uuid.parse? text with
      | none => some (.error .invalidIdentifier, server)
      | some id =>
          match server.updateAccount thread id {} data with
          | .blocked => none
          | .skipped => some (.error .recordNotFound, server)
          | .overflow => some (.error .valueOutOfRange, server)
          | .updated following => some (.ok (), following)
  | .accountUpdateMany text filter data =>
      match Uuid.parse? text with
      | none => some (.error .invalidIdentifier, server)
      | some id =>
          match server.updateAccount thread id filter data with
          | .blocked => none
          | .skipped => some (.ok 0, server)
          | .overflow => some (.error .valueOutOfRange, server)
          | .updated following => some (.ok 1, following)
  | .eventCreate data => some (.ok (), server.write thread (·.insertEvent
      { id := newId, type := data.type, payload := data.payload
        status := data.status, retryCount := 0, createdAt := now }))
  | .auditLogCreate data =>
      match Uuid.parse? data.entityId with
      | none => some (.error .invalidIdentifier, server)
      | some entityId => some (.ok (), server.write thread (·.insertAuditLog
          { id := newId, action := data.action, customerId := data.customerId
            entityType := data.entityType, entityId, ipAddress := data.ipAddress
            userAgent := data.userAgent, timestamp := now }))

/-- A failed `commit` or `rollback` leaves no transaction open. -/
def abandon (server : Server Thread) : Statement → Server Thread
  | .commit | .rollback => server.setOpen thread none
  | _ => server

/-- Any statement may fail without effect: a deadlock or another conflict, a
timeout, a refused connection. Only a unique index reports `P2002`. -/
def perform (server : Server Thread) (failure : Option DatabaseError) (newId : Uuid)
    (now : ℕ) (statement : Statement) :
    Option (Except DatabaseError statement.Result × Server Thread) :=
  match failure with
  | none => server.respond thread newId now statement
  | some error =>
      if error.code = some "P2002" then none
      else some (.error error, server.abandon thread statement)

end Execution

end Server

end BankingBackend.Postgres
