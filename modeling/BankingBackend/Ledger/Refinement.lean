import BankingBackend.Ledger.Ledger
import BankingBackend.Postgres.Locking
import BankingBackend.System

/-! # Commits are ledger steps

What the transactions of the services may contain when they commit, and why each
such commit is a step of the ledger.
-/

namespace BankingBackend

open Foundation Postgres Transactions

/-! ## The ledger of a server -/

def holdingOf (account : Account) : Holding where
  owner := account.customerId
  currency := account.currency
  status := account.status
  cents := account.balance.cents

section Ledgers

variable {Thread : Type} (requests : Thread → Request)

def recordsOf (log : List (Commit Thread)) : List Record :=
  log.flatMap fun commit =>
    commit.tx.transactions.map fun row => ⟨row, (requests commit.thread).amount⟩

def ledgerOf (server : Server Thread) : Ledger where
  holdings id := (server.database.account? id).map holdingOf
  records := recordsOf requests server.log

end Ledgers

/-! ## Contents of a transaction -/

/-- Every row version differs from the committed row in its balance only, by
`delta` cents. -/
def Versions (database : Database) (tx : Tx) (delta : Uuid → ℤ) : Prop :=
  ∀ id, match tx.accounts id with
    | none => delta id = 0
    | some version => ∃ committed, database.account? id = some committed ∧
        version = { committed with balance := version.balance } ∧
        version.balance.cents = committed.balance.cents + delta id ∧
        0 ≤ version.balance.cents

structure RowOf (params : TransactionParams) (row : Transaction) : Prop where
  type : row.type = params.type
  actor : row.actorCustomerId = params.actorCustomerId
  referenceId : row.referenceId = params.referenceId
  fromAccount : parseOptional params.fromAccountId = some row.fromAccountId
  toAccount : parseOptional params.toAccountId = some row.toAccountId
  amount : Money.assign? params.amount = some row.amount

def Owns (database : Database) (user id : Uuid) : Prop :=
  ∃ account, database.account? id = some account ∧ account.customerId = user

def Transactions.TransactionParams.key (params : TransactionParams) : TransactionKey where
  actorCustomerId := params.actorCustomerId
  type := params.type
  referenceId := params.referenceId

namespace RowOf

variable {params : TransactionParams} {row : Transaction}

theorem key (rowOf : RowOf params row) : row.key = params.key := by
  simp [Transaction.key, TransactionParams.key, rowOf.actor, rowOf.type, rowOf.referenceId]

theorem complete (rowOf : RowOf params row) :
    RowOf params { row with status := .completed } :=
  ⟨rowOf.type, rowOf.actor, rowOf.referenceId, rowOf.fromAccount, rowOf.toAccount, rowOf.amount⟩

theorem from_none (rowOf : RowOf params row) (absent : params.fromAccountId = none) :
    row.fromAccountId = none := by
  have parsed := rowOf.fromAccount
  rw [absent] at parsed
  exact (Option.some.inj parsed).symm

theorem to_none (rowOf : RowOf params row) (absent : params.toAccountId = none) :
    row.toAccountId = none := by
  have parsed := rowOf.toAccount
  rw [absent] at parsed
  exact (Option.some.inj parsed).symm

theorem from_some (rowOf : RowOf params row) {text : String} {id : Uuid}
    (named : params.fromAccountId = some text) (value : Uuid.parse? text = some id) :
    row.fromAccountId = some id := by
  have parsed := rowOf.fromAccount
  rw [named, parseOptional, value] at parsed
  exact (Option.some.inj parsed).symm

theorem to_some (rowOf : RowOf params row) {text : String} {id : Uuid}
    (named : params.toAccountId = some text) (value : Uuid.parse? text = some id) :
    row.toAccountId = some id := by
  have parsed := rowOf.toAccount
  rw [named, parseOptional, value] at parsed
  exact (Option.some.inj parsed).symm

end RowOf

structure Announces (type : EventType) (outcome : Outcome) (row : Transaction) (event : Event) :
    Prop where
  type : event.type = type
  resourceId : event.payload.resourceId = row.id
  actorId : event.payload.actorId = row.actorCustomerId
  transactionType : event.payload.metadata.transactionType = row.type
  referenceId : event.payload.metadata.referenceId = row.referenceId
  outcome : event.payload.outcome = outcome

theorem RowOf.announces {params : TransactionParams} {row : Transaction}
    (rowOf : RowOf params row) {context : RequestContext} {type : EventType} {outcome : Outcome}
    {reasonCode fraudRule : Option String} {event : Event} (written : event.type = type)
    (payload : event.payload = eventPayload context params row.id outcome reasonCode fraudRule) :
    Announces type outcome row event where
  type := written
  resourceId := by rw [payload]; rfl
  actorId := by rw [payload]; exact rowOf.actor.symm
  transactionType := by rw [payload]; exact rowOf.type.symm
  referenceId := by rw [payload]; exact rowOf.referenceId.symm
  outcome := by rw [payload]; rfl

structure Moves (request : Request) (tx : Tx) (params : TransactionParams)
    (row : Transaction) : Prop where
  asks : request.params? = some params
  rowOf : RowOf params row
  created : tx.createdAccounts = []
  parties : ∀ id, row.fromAccountId = some id ∨ row.toAccountId = some id →
    ∃ account ∈ tx.reads, account.id = id ∧ account.status = .active
  written : ∀ id, (tx.accounts id).isSome →
    row.fromAccountId = some id ∨ row.toAccountId = some id
  owned : ∃ account ∈ tx.reads,
    (Record.mk row params.amount).ownedAccount = some account.id ∧
      account.customerId = request.userId
  apart : params.type = .transfer → params.fromAccountId ≠ params.toAccountId

structure Posts (request : Request) (tx : Tx) (params : TransactionParams)
    (row : Transaction) : Prop extends Moves request tx params row where
  completed : row.status = .completed
  transactions : tx.transactions = [row]
  events : ∃ event, tx.events = [event] ∧ Announces .transactionCompleted .success row event

structure Rejects (request : Request) (tx : Tx) (params : TransactionParams)
    (row : Transaction) : Prop where
  asks : request.params? = some params
  rowOf : RowOf params row
  rejected : row.status = .rejected
  decision : row.fraudDecision = some .reject
  transactions : tx.transactions = [row]
  events : ∃ event, tx.events = [event] ∧ Announces .transactionFailed .failure row event
  created : tx.createdAccounts = []
  unwritten : tx.accounts = fun _ => none

inductive Committable (request : Request) (database : Database) (tx : Tx) : Prop
  | post (params : TransactionParams) (row : Transaction)
      (posts : Posts request tx params row)
      (versions : Versions database tx (Record.mk row params.amount).entry.effect)
      (reads : ∀ account ∈ tx.reads, Owns database account.customerId account.id)
  | reject (params : TransactionParams) (row : Transaction)
      (rejects : Rejects request tx params row)
  | openAccount (id : Uuid) (currency : Currency) (createdAt : ℕ)
      (fresh : database.account? id = none)
      (contents : tx = Tx.empty.createAccount
        ⟨id, request.userId, .zero, currency, .active, createdAt⟩)
  | setStatus (account : Account) (status : AccountStatus)
      (found : database.account? account.id = some account)
      (owned : account.customerId = request.userId)
      (notClosed : account.status ≠ .closed)
      (emptied : status = .closed → account.balance.cents = 0)
      (contents : tx = Tx.empty.writeAccount { account with status })
  | audit (unwritten : tx.accounts = fun _ => none) (created : tx.createdAccounts = [])
      (transactions : tx.transactions = []) (events : tx.events = [])

/-- A transaction that commits a row commits no other, and the row is that of its request. -/
theorem Committable.row {request : Request} {database : Database} {tx : Tx} {row : Transaction}
    (committable : Committable request database tx) (member : row ∈ tx.transactions) :
    tx.transactions = [row] ∧ ∃ params, Posts request tx params row ∨
      Rejects request tx params row := by
  cases committable with
  | post params only posts =>
      rw [posts.transactions, List.mem_singleton] at member
      subst member
      exact ⟨posts.transactions, params, .inl posts⟩
  | reject params only rejects =>
      rw [rejects.transactions, List.mem_singleton] at member
      subst member
      exact ⟨rejects.transactions, params, .inr rejects⟩
  | openAccount id currency createdAt fresh contents =>
      rw [contents] at member
      cases member
  | setStatus account status found owned notClosed emptied contents =>
      rw [contents] at member
      cases member
  | audit unwritten created transactions events =>
      rw [transactions] at member
      cases member

/-! ## Refinement -/

section Refinement

variable {database : Database} {tx : Tx}

theorem holdings_unwritten (unwritten : tx.accounts = fun _ => none)
    (created : tx.createdAccounts = []) (id : Uuid) :
    (tx.applyTo database).account? id = database.account? id := by
  have keeps : tx.KeepsIds := fun id account written => by simp [unwritten] at written
  have same : tx.version = fun account => account :=
    funext fun account => Tx.version_of_unwritten (by rw [unwritten])
  rw [keeps.account?_applyTo, created, same]
  simp

private theorem holdingOf_version {version committed : Account}
    (shape : version = { committed with balance := version.balance }) :
    holdingOf version = { holdingOf committed with cents := version.balance.cents } := by
  have owner : version.customerId = committed.customerId := by rw [shape]
  have currency : version.currency = committed.currency := by rw [shape]
  have status : version.status = committed.status := by rw [shape]
  simp only [holdingOf, owner, currency, status]

theorem Versions.holdings {delta : Uuid → ℤ} (versions : Versions database tx delta)
    (keeps : tx.KeepsIds) (created : tx.createdAccounts = []) (id : Uuid) :
    ((tx.applyTo database).account? id).map holdingOf =
      ((database.account? id).map holdingOf).map fun holding =>
        { holding with cents := holding.cents + delta id } := by
  rw [keeps.account?_applyTo, created, List.find?_nil, Option.or_none]
  cases found : database.account? id with
  | none => rfl
  | some account =>
      have same := Database.account?_id found
      have version := versions id
      cases written : tx.accounts id with
      | none =>
          rw [written] at version
          have unchanged : tx.version account = account :=
            Tx.version_of_unwritten (same ▸ written)
          simp [unchanged, version]
      | some current =>
          rw [written] at version
          rcases version with ⟨committed, isCommitted, shape, cents, nonneg⟩
          cases found.symm.trans isCommitted
          have changed : tx.version account = current := by
            simp [Tx.version, same, written]
          rw [Option.map_some, Option.map_some, Option.map_some, changed,
            holdingOf_version shape, cents]
          rfl

/-- A debited account is left with what its version holds. -/
theorem Versions.nonneg {delta : Uuid → ℤ} (versions : Versions database tx delta)
    {id : Uuid} {account : Account} (found : database.account? id = some account)
    (covered : 0 ≤ account.balance.cents) : 0 ≤ account.balance.cents + delta id := by
  have version := versions id
  cases written : tx.accounts id with
  | none =>
      rw [written] at version
      simpa [version] using covered
  | some current =>
      rw [written] at version
      rcases version with ⟨committed, isCommitted, shape, cents, nonneg⟩
      cases found.symm.trans isCommitted
      exact cents ▸ nonneg

theorem RowOf.names {request : Request} {params : TransactionParams} {row : Transaction}
    (rowOf : RowOf params row) (asks : request.params? = some params) :
    (Record.mk row params.amount).NamesAccounts := by
  have parsed : ∀ {text : String} {id : Option Uuid}, parseOptional (some text) = some id →
      id.isSome := by
    intro text id value
    rcases Option.map_eq_some_iff.mp value with ⟨uuid, _, rfl⟩
    rfl
  rcases request with ⟨userId, context, operation⟩
  unfold Record.NamesAccounts
  cases operation <;> cases asks <;> rw [show row.type = _ from rowOf.type]
  · exact ⟨rowOf.from_none rfl, parsed rowOf.toAccount⟩
  · exact ⟨parsed rowOf.fromAccount, rowOf.to_none rfl⟩
  · exact ⟨parsed rowOf.fromAccount, parsed rowOf.toAccount⟩

theorem RowOf.valid {request : Request} {params : TransactionParams} {row : Transaction}
    (rowOf : RowOf params row) (asks : request.params? = some params)
    (settled : row.status = .completed ∨
      row.status = .rejected ∧ row.fraudDecision = some .reject) :
    (Record.mk row params.amount).Valid where
  names := rowOf.names asks
  settled := settled
  recorded := Money.assign?_cents rowOf.amount
  positive := by
    have minimum := Request.params?_amountMin asks
    show 0 < params.amount
    linarith

theorem cents_holdings (id : Uuid) :
    database.cents id = (((database.account? id).map holdingOf).map Holding.cents).getD 0 := by
  cases found : database.account? id <;> simp [Database.cents, found, holdingOf]

theorem Versions.cents {delta : Uuid → ℤ} (versions : Versions database tx delta)
    (keeps : tx.KeepsIds) (created : tx.createdAccounts = []) (id : Uuid) :
    (tx.applyTo database).cents id = database.cents id + delta id := by
  rw [cents_holdings, versions.holdings keeps created, cents_holdings]
  cases found : database.account? id with
  | some account => rfl
  | none =>
      have version := versions id
      cases written : tx.accounts id with
      | none =>
          rw [written] at version
          simp [version]
      | some current =>
          rw [written] at version
          rcases version with ⟨committed, isCommitted, _⟩
          rw [found] at isCommitted
          cases isCommitted

/-- Only a posting moves money, and it completes one row. -/
theorem Committable.moves {request : Request} (committable : Committable request database tx)
    (keeps : tx.KeepsIds) :
    ((∀ id, (tx.applyTo database).cents id = database.cents id) ∧
      ∀ row ∈ tx.transactions, row.status ≠ .completed) ∨
    ∃ params row, Posts request tx params row ∧ ∀ id, (tx.applyTo database).cents id =
      database.cents id + (Record.mk row params.amount).entry.effect id := by
  cases committable with
  | post params row posts versions reads =>
      exact .inr ⟨params, row, posts, versions.cents keeps posts.created⟩
  | reject params row rejects =>
      refine .inl ⟨fun id => ?_, fun other member => ?_⟩
      · simp only [Database.cents, holdings_unwritten rejects.unwritten rejects.created]
      · rw [rejects.transactions, List.mem_singleton] at member
        rw [member, rejects.rejected]
        decide
  | openAccount id currency createdAt fresh contents =>
      subst contents
      refine .inl ⟨fun key => ?_, fun other member => by cases member⟩
      have same : (Tx.empty.createAccount ⟨id, request.userId, .zero, currency, .active,
          createdAt⟩).version = fun account => account :=
        funext fun account => Tx.version_of_unwritten rfl
      simp only [Database.cents, keeps.account?_applyTo, same, Option.map_id']
      by_cases equal : key = id
      · subst equal
        simp [fresh, Tx.createAccount, Tx.empty]
      · simp [Ne.symm equal, Tx.createAccount, Tx.empty]
  | setStatus account status found owned notClosed emptied contents =>
      subst contents
      refine .inl ⟨fun key => ?_, fun other member => by cases member⟩
      simp only [Database.cents, keeps.account?_applyTo]
      by_cases equal : key = account.id
      · subst equal
        simp [found, Tx.version, Tx.writeAccount, Tx.empty]
      · cases other : database.account? key with
        | none => simp [Tx.writeAccount, Tx.empty]
        | some current =>
            have different : current.id ≠ account.id :=
              (Database.account?_id other).symm ▸ equal
            simp [different, Tx.version, Tx.writeAccount, Tx.empty]
  | audit unwritten created transactions events =>
      refine .inl ⟨fun id => ?_, fun other member => by simp [transactions] at member⟩
      simp only [Database.cents, holdings_unwritten unwritten created]

/-- The primary key of the accounts table. -/
theorem Committable.accountIds {request : Request} (committable : Committable request database tx)
    (keeps : tx.KeepsIds) (nodup : (database.accounts.map Account.id).Nodup) :
    ((tx.applyTo database).accounts.map Account.id).Nodup := by
  have versions : (database.accounts.map tx.version).map Account.id =
      database.accounts.map Account.id := by
    rw [List.map_map]
    exact List.map_congr_left fun account _ => keeps.version account
  have unchanged : tx.createdAccounts = [] →
      ((tx.applyTo database).accounts.map Account.id).Nodup := by
    intro created
    simpa [Tx.applyTo, created, versions] using nodup
  cases committable with
  | post params row posts _ _ => exact unchanged posts.created
  | reject params row rejects => exact unchanged rejects.created
  | openAccount id currency createdAt fresh contents =>
      have created : tx.createdAccounts =
          [⟨id, request.userId, .zero, currency, .active, createdAt⟩] := by
        rw [contents]
        rfl
      simp only [Tx.applyTo, created, List.map_append, versions]
      rw [List.nodup_append]
      refine ⟨nodup, by simp, ?_⟩
      intro key member new newMember equal
      rcases List.mem_singleton.mp newMember with rfl
      rcases List.mem_map.mp member with ⟨account, accountMember, rfl⟩
      have found := Database.account?_of_mem nodup accountMember
      rw [equal, fresh] at found
      cases found
  | setStatus account status found owned notClosed emptied contents =>
      exact unchanged (by rw [contents]; rfl)
  | audit unwritten created transactions events => exact unchanged created

variable {Thread : Type} {requests : Thread → Request} {server : Server Thread}
  {thread : Thread}

private theorem decides (rows : server.database.transactions =
      (recordsOf requests server.log).map Record.row)
    (pending : server.Pending thread tx) {params : TransactionParams} {row : Transaction}
    (asks : (requests thread).params? = some params) (rowOf : RowOf params row)
    (transactions : tx.transactions = [row])
    (settled : row.status = .completed ∨
      row.status = .rejected ∧ row.fraudDecision = some .reject) :
    Ledger.Decides (requests thread).userId (ledgerOf requests server)
      ⟨row, params.amount⟩ where
  valid := rowOf.valid asks settled
  actor := rowOf.actor.trans (Request.params?_actor asks)
  fresh other member equal := by
    have committed : other.row ∈ server.database.transactions :=
      rows ▸ List.mem_map_of_mem member
    exact (pending.fresh row (by simp [transactions]) other.row committed).key equal.symm

variable [DecidableEq Thread]

theorem recordsOf_commit {row : Transaction} {params : TransactionParams}
    (transactions : tx.transactions = [row])
    (asks : (requests thread).params? = some params) :
    recordsOf requests (server.commitTx thread tx).log =
      recordsOf requests server.log ++ [⟨row, params.amount⟩] := by
  simp [recordsOf, transactions, Request.amount_eq asks]

theorem recordsOf_commit_nil (transactions : tx.transactions = []) :
    recordsOf requests (server.commitTx thread tx).log = recordsOf requests server.log := by
  simp [recordsOf, transactions]

/-- A commit of a service is a step of its user on the ledger, or none at all. -/
theorem Committable.refines
    (committable : Committable (requests thread) server.database tx)
    (pending : server.Pending thread tx)
    (rows : server.database.transactions = (recordsOf requests server.log).map Record.row)
    (sound : (ledgerOf requests server).Sound) :
    ledgerOf requests (server.commitTx thread tx) = ledgerOf requests server ∨
      Ledger.Step (requests thread).userId (ledgerOf requests server)
        (ledgerOf requests (server.commitTx thread tx)) := by
  cases committable with
  | post params row posts versions reads =>
      have after : ledgerOf requests (server.commitTx thread tx) =
          ((ledgerOf requests server).apply (Record.mk row params.amount).entry).record
            ⟨row, params.amount⟩ := by
        simp only [ledgerOf, Ledger.apply, Ledger.record,
          recordsOf_commit posts.transactions posts.asks, Server.commitTx_database]
        congr 1
        funext id
        exact versions.holdings pending.keepsIds posts.created id
      rw [after]
      refine .inr (.post _ (decides rows pending posts.asks posts.rowOf posts.transactions
        (.inl posts.completed)) posts.completed ?_ ?_ ?_)
      · rcases posts.owned with ⟨account, read, owned, owner⟩
        rcases reads account read with ⟨current, found, sameOwner⟩
        exact ⟨account.id, holdingOf current, owned, by simp [ledgerOf, found],
          sameOwner.trans owner⟩
      · intro id party
        rcases posts.parties id party with ⟨account, read, rfl, _⟩
        rcases reads account read with ⟨current, found, _⟩
        simp [ledgerOf, found]
      · intro id holding debited held
        rcases Option.map_eq_some_iff.mp held with ⟨account, found, rfl⟩
        exact versions.nonneg found (sound.nonneg id _ held)
  | reject params row rejects =>
      have after : ledgerOf requests (server.commitTx thread tx) =
          (ledgerOf requests server).record ⟨row, params.amount⟩ := by
        simp only [ledgerOf, Ledger.record, recordsOf_commit rejects.transactions rejects.asks,
          Server.commitTx_database, holdings_unwritten rejects.unwritten rejects.created]
      rw [after]
      refine .inr (.reject _ (decides rows pending rejects.asks rejects.rowOf
        rejects.transactions (.inr ⟨rejects.rejected, rejects.decision⟩)) ?_)
      intro completed
      have both : TransactionStatus.completed = .rejected :=
        (show row.status = .completed from completed).symm.trans rejects.rejected
      cases both
  | openAccount id currency createdAt fresh contents =>
      subst contents
      refine .inr ?_
      have after : ledgerOf requests (server.commitTx thread (Tx.empty.createAccount
            ⟨id, (requests thread).userId, .zero, currency, .active, createdAt⟩)) =
          (ledgerOf requests server).set id
            ⟨(requests thread).userId, currency, .active, 0⟩ := by
        simp only [ledgerOf, Ledger.set, Server.commitTx_database]
        congr 1
        · funext key
          have same : (Tx.empty.createAccount ⟨id, (requests thread).userId, .zero, currency,
              .active, createdAt⟩).version = fun account => account :=
            funext fun account => Tx.version_of_unwritten rfl
          rw [pending.keepsIds.account?_applyTo, same]
          by_cases equal : key = id
          · subst equal
            simp [fresh, Tx.createAccount, Tx.empty, holdingOf]
          · have different : id ≠ key := Ne.symm equal
            simp [equal, different, Tx.createAccount, Tx.empty]
        · exact recordsOf_commit_nil rfl
      rw [after]
      exact .openAccount id currency (by simp [ledgerOf, fresh])
  | setStatus account status found owned notClosed emptied contents =>
      subst contents
      refine .inr ?_
      have after : ledgerOf requests (server.commitTx thread
            (Tx.empty.writeAccount { account with status })) =
          (ledgerOf requests server).set account.id { holdingOf account with status } := by
        simp only [ledgerOf, Ledger.set, Server.commitTx_database]
        congr 1
        · funext key
          rw [pending.keepsIds.account?_applyTo]
          by_cases equal : key = account.id
          · subst equal
            simp [found, Tx.version, Tx.writeAccount, Tx.empty, holdingOf]
          · cases other : server.database.account? key with
            | none => simp [equal, other, Tx.writeAccount, Tx.empty]
            | some current =>
                have different : current.id ≠ account.id :=
                  (Database.account?_id other).symm ▸ equal
                simp [equal, other, different, Tx.version, Tx.writeAccount, Tx.empty]
        · exact recordsOf_commit_nil rfl
      rw [after]
      exact .setStatus account.id (holdingOf account) status (by simp [ledgerOf, found]) owned
        notClosed emptied
  | audit unwritten created transactions events =>
      refine .inl ?_
      simp only [ledgerOf, Server.commitTx_database, holdings_unwritten unwritten created,
        recordsOf_commit_nil transactions]

end Refinement

end BankingBackend
