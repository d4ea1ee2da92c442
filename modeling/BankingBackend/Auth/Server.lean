import BankingBackend.Auth.Schema

/-! # The database of customers and their tokens

Open transactions at READ COMMITTED. A statement outside of any transaction is one
of its own.
-/

namespace BankingBackend.Auth

open Foundation
open Postgres (Uuid DatabaseError)

/-- Besides its row versions, a transaction has when it began, what it has changed and the
events it will commit. -/
structure Transaction where
  since : ℕ
  changes : List Change := []
  events : List UserRegisteredEvent := []

/-- A committed transaction, with the rows before and after it. `seen` and `selected` are how
many transactions had committed when the thread last read a customer and when it last
selected live tokens. -/
structure Commit (Thread : Type) where
  thread : Thread
  since : ℕ
  now : ℕ
  seen : ℕ
  selected : ℕ
  changes : List Change
  before : Rows
  after : Rows

/-- Each thread has at most one transaction open at a time. The log is newest first. -/
structure Server (Thread : Type) where
  customers : Table Thread Uuid Customer
  tokens : Table Thread Uuid RefreshToken
  events : List UserRegisteredEvent
  auditLogs : List AuditLogData
  open_ : Thread → Option Transaction
  log : List (Commit Thread)
  seen : Thread → ℕ
  selected : Thread → ℕ

/-- A failing statement may have been executed. -/
structure Failure where
  error : DatabaseError
  executed : Bool := false

namespace Server

variable {Thread : Type}

def initial : Server Thread where
  customers := .empty
  tokens := .empty
  events := []
  auditLogs := []
  open_ _ := none
  log := []
  seen _ := 0
  selected _ := 0

def rows (server : Server Thread) : Rows where
  customers := server.customers.committed
  tokens := server.tokens.committed

/-! ## Transactions -/

section Transactions

variable [DecidableEq Thread] (thread : Thread) (now : ℕ) (server : Server Thread)

def view : Rows where
  customers := server.customers.visible thread
  tokens := server.tokens.visible thread

def setOpen (transaction : Option Transaction) : Server Thread :=
  { server with open_ := Function.update server.open_ thread transaction }

def commit (transaction : Transaction) : Server Thread :=
  { server with
    customers := server.customers.commit thread
    tokens := server.tokens.commit thread
    events := server.events ++ transaction.events
    open_ := Function.update server.open_ thread none
    log :=
      { thread
        since := transaction.since
        now
        seen := server.seen thread
        selected := server.selected thread
        changes := transaction.changes
        before := server.rows
        after := server.view thread } :: server.log }

def rollback : Server Thread :=
  { server with
    customers := server.customers.release thread
    tokens := server.tokens.release thread
    open_ := Function.update server.open_ thread none }

/-- A change in the open transaction, or else in one of its own. -/
def change (change : Change) : Server Thread :=
  match server.open_ thread with
  | some transaction =>
      server.setOpen thread (some { transaction with changes := transaction.changes ++ [change] })
  | none => server.commit thread now { since := now, changes := [change] }

end Transactions

/-! ## Statements -/

section Statements

variable [DecidableEq Thread] (thread : Thread) (now : ℕ) (server : Server Thread)

def findCustomer : CustomerKey → Option (Entity Customer)
  | .id id => (server.customers.visible thread id).map fun row => ⟨id, row⟩
  | .email email =>
      (server.customers.find? thread fun row => row.email == email).map fun found =>
        ⟨found.1, found.2⟩

def findRefreshToken (tokenHash : String) : Option (Entity RefreshToken) :=
  (server.tokens.find? thread fun row => row.tokenHash == tokenHash).map fun found =>
    ⟨found.1, found.2⟩

/-- Another row has the value of a unique column, or another transaction has written one
that had it or is to have it. -/
def conflict {Row : Type} (table : Table Thread Uuid Row) (id : Uuid) (same : Row → Bool) :
    Option Bool :=
  let others := table.keys.filter fun key => key != id
  if others.any fun key => (table.cell key).locked thread &&
      ((table.committed key).any same || (table.cell key).written.any fun version => same version.2)
  then none
  else some (others.any fun key => (table.visible thread key).any same)

/-- Insert a row under a new identifier, or find its unique column taken. -/
def insertCustomer (id : Uuid) (data : CustomerData) :
    Option (Except DatabaseError (Entity Customer) × Server Thread) :=
  if server.customers.used id then none
  else match conflict thread server.customers id fun other => other.email == data.email with
  | none => none
  | some true => some (.error .uniqueViolation, server)
  | some false => some (.ok ⟨id, .new data⟩,
      change thread now
        { server with customers := server.customers.write thread id (.new data) }
        (.customerCreated id data))

def insertRefreshToken (id : Uuid) (data : RefreshTokenData) :
    Option (Except DatabaseError (Entity RefreshToken) × Server Thread) :=
  if server.tokens.used id then none
  else match conflict thread server.tokens id fun other => other.tokenHash == data.tokenHash with
  | none => none
  | some true => some (.error .uniqueViolation, server)
  | some false => some (.ok ⟨id, .new data⟩,
      change thread now { server with tokens := server.tokens.write thread id (.new data) }
        (.tokenCreated id data))

def updateCustomer (id : Uuid) (update : Customer → Customer) (written : Change) :
    Option (Option Customer × Server Thread) :=
  match server.customers.update thread id (fun _ => true) update with
  | .blocked => none
  | .skipped => some (none, server)
  | .written row customers => some (some row, change thread now { server with customers } written)

def updateRefreshToken (id : Uuid) (meets : RefreshToken → Bool)
    (update : RefreshToken → RefreshToken) (written : Change) :
    Option (Option RefreshToken × Server Thread) :=
  match server.tokens.update thread id meets update with
  | .blocked => none
  | .skipped => some (none, server)
  | .written row tokens => some (some row, change thread now { server with tokens } written)

def createEvent (event : UserRegisteredEvent) : Server Thread :=
  match server.open_ thread with
  | some transaction =>
      server.setOpen thread (some { transaction with events := transaction.events ++ [event] })
  | none => { server with events := server.events ++ [event] }

def newEmail : CustomerUpdate → Option String
  | .profile email _ _ _ => some email
  | .password _ => none
  | .resetLogin => none

def execute (newId : Uuid) : (statement : Statement) →
    Option (Except DatabaseError statement.Result × Server Thread)
  | .begin =>
      match server.open_ thread with
      | some _ => some (.ok (), server)
      | none => some (.ok (), server.setOpen thread (some { since := now }))
  | .commit =>
      match server.open_ thread with
      | some transaction => some (.ok (), server.commit thread now transaction)
      | none => some (.ok (), server)
  | .rollback => some (.ok (), server.rollback thread)
  | .customerFindUnique key => some (.ok (server.findCustomer thread key),
      { server with seen := Function.update server.seen thread server.log.length })
  | .customerCreate data => server.insertCustomer thread now newId data
  | .customerUpdate id data =>
      match (newEmail data).elim (some false) fun email =>
          conflict thread server.customers id fun other => other.email == email with
      | none => none
      | some true => some (.error .uniqueViolation, server)
      | some false =>
          (server.updateCustomer thread now id (fun row => row.update data)
            (.customerUpdated id data)).map fun (row, after) =>
              (match row with
                | some row => .ok ⟨id, row⟩
                | none => .error .recordNotFound, after)
  | .recordLoginFailure id threshold durationMinutes =>
      (server.updateCustomer thread now id (fun row => row.failLogin threshold durationMinutes now)
        (.loginFailed id threshold durationMinutes now)).map fun (row, after) =>
          (.ok (row.map fun row => (row.failedLoginAttempts, row.lockUntil)), after)
  | .eventCreate event =>
      some (.ok (), server.createEvent thread event)
  | .refreshTokenFindUnique tokenHash =>
      some (.ok ((server.findRefreshToken thread tokenHash).map fun token =>
        (token, server.findCustomer thread (.id token.row.customerId))), server)
  | .refreshTokenCreate data => server.insertRefreshToken thread now newId data
  | .refreshTokenSelectLive customerId =>
      some (.ok (server.tokens.select thread fun row => row.customerId == customerId && row.live),
        { server with selected := Function.update server.selected thread server.log.length })
  | .refreshTokenRevokeLive id revokedAt =>
      (server.updateRefreshToken thread now id RefreshToken.live (fun row => row.revoke revokedAt)
        (.tokenRevokedLive id revokedAt)).map fun (row, after) =>
          (.ok (if row.isSome then 1 else 0), after)
  | .refreshTokenExchange id date revokedAt replacedById =>
      (server.updateRefreshToken thread now id (fun row => row.exchangeable date)
        (fun row => row.replace revokedAt replacedById)
        (.tokenExchanged id date revokedAt replacedById)).map fun (row, after) =>
          (.ok (if row.isSome then 1 else 0), after)
  | .refreshTokenRevoke id revokedAt =>
      (server.updateRefreshToken thread now id (fun _ => true) (fun row => row.revoke revokedAt)
        (.tokenRevoked id revokedAt)).map fun (row, after) =>
          (match row with
            | some _ => .ok ()
            | none => .error .recordNotFound, after)
  | .auditLogCreate data => some (.ok (), { server with auditLogs := server.auditLogs ++ [data] })

/-- A transaction ends when its commit or rollback fails. -/
def afterFailure (newId : Uuid) (failure : Failure) (statement : Statement) : Server Thread :=
  match server.execute thread now newId statement with
  | some (_, after) =>
      if failure.executed then after
      else match statement with
      | .commit | .rollback => server.rollback thread
      | _ => server
  | none => server

def perform (newId : Uuid) (failure : Option Failure) (statement : Statement) :
    Option (Except DatabaseError statement.Result × Server Thread) :=
  match failure with
  | none => server.execute thread now newId statement
  | some failure =>
      some (.error failure.error, server.afterFailure thread now newId failure statement)

end Statements

end Server

end BankingBackend.Auth
