import BankingBackend.Ledger.Refinement

/-! # The shared invariant

What holds of the database between any two steps, what one step of a call can do
to it, and what a call can rely on while others take steps.
-/

namespace BankingBackend

open Foundation Postgres Redis Common

section Definitions

variable {Thread : Type}

structure Invariant (requests : Thread → Request) (server : Server Thread) : Prop where
  accountIds : (server.database.accounts.map Account.id).Nodup
  rows : server.database.transactions = (recordsOf requests server.log).map Record.row
  sound : (ledgerOf requests server).Sound
  pending : server.AllPending

/-- Everything a step of a call can do to the server. -/
inductive Effect [DecidableEq Thread] (request : Request) (thread : Thread)
    (before : Server Thread) : Server Thread → Prop
  | unchanged : Effect request thread before before
  | works (tx : Option Tx)
      (pending : ∀ current, tx = some current → before.Pending thread current)
      (reads : ∀ current, tx = some current → ∀ account ∈ current.reads,
        (∃ old, before.open_ thread = some old ∧ account ∈ old.reads) ∨
          before.database.account? account.id = some account) :
      Effect request thread before (before.setOpen thread tx)
  | commits (tx : Tx) (pending : before.Pending thread tx)
      (committable : Committable request before.database tx)
      (own : before.open_ thread = some tx ∨ tx.transactions = []) :
      Effect request thread before (before.commitTx thread tx)

structure Rely (requests : Thread → Request) (thread : Thread)
    (before after : Server Thread) : Prop where
  invariant : Invariant requests before → Invariant requests after
  own : after.open_ thread = before.open_ thread
  commits : ∀ commit ∈ after.log, commit.thread = thread → commit ∈ before.log
  locked : ∀ tx id account, before.open_ thread = some tx → (tx.accounts id).isSome →
    before.database.account? id = some account → after.database.account? id = some account
  owners : ∀ user id, Owns before.database user id → Owns after.database user id
  rows : ∀ row ∈ before.database.transactions, row ∈ after.database.transactions

def Request.Counts (request : Request) (scope : DailyScope) : Prop :=
  ∃ params, request.params? = some params ∧ scope.type = params.type ∧
    scope.userId = params.actorCustomerId

instance (request : Request) (scope : DailyScope) : Decidable (request.Counts scope) :=
  inferInstanceAs (Decidable (∃ params ∈ request.params?, scope.type = params.type ∧
    scope.userId = params.actorCustomerId))

structure Guarantee [DecidableEq Thread] (request : Request) (thread : Thread)
    (before after : World Thread) : Prop where
  server : Effect request thread before.server after.server
  daily : ∀ scope, ¬request.Counts scope → after.redis.daily scope = before.redis.daily scope
  now : after.now = before.now

/-- No two rows have one customer, type and reference. -/
theorem Invariant.keys {requests : Thread → Request} {server : Server Thread}
    (invariant : Invariant requests server) :
    (server.database.transactions.map Transaction.key).Nodup := by
  rw [invariant.rows, List.map_map]
  exact invariant.sound.keys

theorem Invariant.logged {requests : Thread → Request} {server : Server Thread}
    (invariant : Invariant requests server) {row : Transaction}
    (member : row ∈ server.database.transactions) :
    ∃ commit ∈ server.log, row ∈ commit.tx.transactions := by
  rw [invariant.rows] at member
  rcases List.mem_map.mp member with ⟨record, listed, rfl⟩
  rcases List.mem_flatMap.mp listed with ⟨commit, logged, written⟩
  rcases List.mem_map.mp written with ⟨row, rowMember, rfl⟩
  exact ⟨commit, logged, rowMember⟩

end Definitions

/-! ## Rely -/

namespace Rely

variable {Thread : Type} {requests : Thread → Request} {thread : Thread}
  {first second third : Server Thread}

theorem refl (server : Server Thread) : Rely requests thread server server where
  invariant := id
  own := rfl
  commits _ member _ := member
  locked _ _ _ _ _ found := found
  owners _ _ owns := owns
  rows _ member := member

theorem trans (before : Rely requests thread first second)
    (after : Rely requests thread second third) : Rely requests thread first third where
  invariant holds := after.invariant (before.invariant holds)
  own := after.own.trans before.own
  commits commit member own := before.commits commit (after.commits commit member own) own
  locked tx id account opened written found :=
    after.locked tx id account (before.own.trans opened) written
      (before.locked tx id account opened written found)
  owners user id owns := after.owners user id (before.owners user id owns)
  rows row member := after.rows row (before.rows row member)

end Rely

/-! ## Steps -/

namespace Effect

variable {Thread : Type} [DecidableEq Thread] {requests : Thread → Request}
  {thread other : Thread} {before after : Server Thread}

private theorem rows_commit {tx : Tx}
    (rows : before.database.transactions = (recordsOf requests before.log).map Record.row) :
    (tx.applyTo before.database).transactions =
      (recordsOf requests (before.commitTx thread tx).log).map Record.row := by
  simp [Tx.applyTo, recordsOf, rows, Function.comp_def]

theorem keeps (effect : Effect (requests thread) thread before after)
    (invariant : Invariant requests before) : Invariant requests after := by
  cases effect with
  | unchanged => exact invariant
  | works tx pending =>
      exact ⟨invariant.accountIds, invariant.rows, invariant.sound,
        invariant.pending.setOpen pending⟩
  | commits tx pending committable =>
      refine ⟨committable.accountIds pending.keepsIds invariant.accountIds,
        rows_commit invariant.rows, ?_, invariant.pending.commitTx pending⟩
      rcases committable.refines pending invariant.rows invariant.sound with same | step
      · rw [same]
        exact invariant.sound
      · exact invariant.sound.step step

theorem ledger (effect : Effect (requests thread) thread before after)
    (invariant : Invariant requests before) :
    ledgerOf requests after = ledgerOf requests before ∨
      Ledger.Step (requests thread).userId (ledgerOf requests before)
        (ledgerOf requests after) := by
  cases effect with
  | unchanged => exact .inl rfl
  | works => exact .inl rfl
  | commits tx pending committable =>
      exact committable.refines pending invariant.rows invariant.sound

/-- Accounts stay, with their owner and currency. -/
theorem persists (effect : Effect (requests thread) thread before after)
    (invariant : Invariant requests before) {id : Uuid} {account : Account}
    (found : before.database.account? id = some account) :
    ∃ kept, after.database.account? id = some kept ∧
      kept.customerId = account.customerId ∧ kept.currency = account.currency := by
  have held : (ledgerOf requests before).holdings id = some (holdingOf account) := by
    simp [ledgerOf, found]
  rcases effect.ledger invariant with same | step
  · have keptHeld : (ledgerOf requests after).holdings id = some (holdingOf account) := by
      rw [same, held]
    rcases Option.map_eq_some_iff.mp keptHeld with ⟨kept, keptFound, equal⟩
    exact ⟨kept, keptFound, congrArg Holding.owner equal, congrArg Holding.currency equal⟩
  · rcases step.persists held with ⟨holding, keptHeld, owner, currency⟩
    rcases Option.map_eq_some_iff.mp keptHeld with ⟨kept, keptFound, rfl⟩
    exact ⟨kept, keptFound, owner, currency⟩

theorem rows (effect : Effect (requests thread) thread before after)
    {row : Transaction} (member : row ∈ before.database.transactions) :
    row ∈ after.database.transactions := by
  cases effect with
  | unchanged => exact member
  | works => exact member
  | commits tx => exact List.mem_append_left _ member

theorem new_row (effect : Effect (requests thread) thread before after) {row : Transaction}
    (member : row ∈ after.database.transactions) :
    row ∈ before.database.transactions ∨
      ∃ tx params, row.status = .completed → Posts (requests thread) tx params row := by
  cases effect with
  | unchanged => exact .inl member
  | works => exact .inl member
  | commits tx pending committable =>
      rcases List.mem_append.mp member with old | new
      · exact .inl old
      · rcases committable.moves pending.keepsIds with
          ⟨_, uncompleted⟩ | ⟨params, posted, posts, _⟩
        · exact .inr ⟨tx, ⟨.deposit, ⟨0⟩, none, none, 0, ""⟩,
            fun completed => absurd completed (uncompleted row new)⟩
        · rw [posts.transactions, List.mem_singleton] at new
          exact .inr ⟨tx, params, fun _ => new ▸ posts⟩

theorem logged (effect : Effect (requests thread) thread before after) {commit : Commit Thread}
    (member : commit ∈ after.log) : commit ∈ before.log ∨
      commit.thread = thread ∧ Committable (requests thread) before.database commit.tx := by
  cases effect with
  | unchanged => exact .inl member
  | works => exact .inl member
  | commits tx pending committable =>
      rcases List.mem_append.mp member with old | new
      · exact .inl old
      · rcases List.mem_singleton.mp new with rfl
        exact .inr ⟨rfl, committable⟩

theorem rely (effect : Effect (requests other) other before after)
    (invariant : Invariant requests before) (different : thread ≠ other) :
    Rely requests thread before after where
  invariant := effect.keeps
  own := by
    cases effect with
    | unchanged => rfl
    | works tx => exact Server.setOpen_other different tx
    | commits tx => exact Server.commitTx_other different tx
  commits commit member own := by
    cases effect with
    | unchanged => exact member
    | works => exact member
    | commits tx =>
        rcases List.mem_append.mp member with old | new
        · exact old
        · rcases List.mem_singleton.mp new with rfl
          exact absurd own.symm different
  locked tx id account opened written found := by
    cases effect with
    | unchanged => exact found
    | works => exact found
    | commits otherTx pending =>
        have unwritten : otherTx.accounts id = none :=
          ((pending.apart thread tx different opened).symm).rows id written
        exact pending.keepsIds.account?_unwritten unwritten found
  owners user id owns := by
    rcases owns with ⟨account, found, owner⟩
    rcases effect.persists invariant found with ⟨kept, keptFound, sameOwner, _⟩
    exact ⟨kept, keptFound, sameOwner.trans owner⟩
  rows _ member := effect.rows member

end Effect

end BankingBackend
