import BankingBackend.Foundation.Matching
import BankingBackend.Postgres.Server

/-! # What statements do

The inversion of each statement that writes, and what keeps open transactions
apart: written rows stay locked and inserted keys stay reserved.
-/

namespace BankingBackend.Postgres

/-! ## Rows after a commit -/

namespace Database

variable {database : Database} {id : Uuid} {account : Account}

theorem account?_id (found : database.account? id = some account) : account.id = id := by
  have test := List.find?_some found
  simpa using test

theorem account?_mem (found : database.account? id = some account) :
    account ∈ database.accounts := List.mem_of_find?_eq_some found

theorem account?_of_mem (nodup : (database.accounts.map Account.id).Nodup)
    (member : account ∈ database.accounts) : database.account? account.id = some account :=
  Foundation.find?_of_nodup_map nodup member

end Database

/-- Neither the primary key nor the unique index takes the rows for the same. -/
structure Transaction.Differs (row other : Transaction) : Prop where
  key : row.key ≠ other.key
  id : row.id ≠ other.id

theorem Transaction.Differs.symm {row other : Transaction} (differs : row.Differs other) :
    other.Differs row :=
  ⟨Ne.symm differs.key, Ne.symm differs.id⟩

theorem TransactionData.row_ok {data : TransactionData} {id : Uuid} {now : ℕ} {row : Transaction}
    (valid : data.row id now = .ok row) : ∃ fromAccountId toAccountId amount,
      parseOptional data.fromAccountId = some fromAccountId ∧
      parseOptional data.toAccountId = some toAccountId ∧
      Money.assign? data.amount = some amount ∧
      row =
        { id, type := data.type, actorCustomerId := data.actorCustomerId, fromAccountId, toAccountId
          amount, status := data.status, fraudDecision := data.fraudDecision
          fraudReason := data.fraudReason, referenceId := data.referenceId, createdAt := now } := by
  unfold TransactionData.row at valid
  split at valid
  · rename_i fromAccountId toAccountId amount fromParsed toParsed assigned
    cases valid
    exact ⟨fromAccountId, toAccountId, amount, fromParsed, toParsed, assigned, rfl⟩
  · cases valid
  · cases valid

theorem TransactionData.row_id {data : TransactionData} {id : Uuid} {now : ℕ} {row : Transaction}
    (valid : data.row id now = .ok row) : row.id = id := by
  rcases row_ok valid with ⟨_, _, _, _, _, _, rfl⟩
  rfl

namespace Tx

/-- A row version has the identifier of its row. -/
def KeepsIds (tx : Tx) : Prop := ∀ id account, tx.accounts id = some account → account.id = id

variable {tx : Tx} {database : Database}

theorem KeepsIds.version (keeps : tx.KeepsIds) (account : Account) :
    (tx.version account).id = account.id := by
  unfold Tx.version
  cases written : tx.accounts account.id with
  | none => rfl
  | some version => exact keeps _ _ written

theorem KeepsIds.account?_applyTo (keeps : tx.KeepsIds) (id : Uuid) :
    (tx.applyTo database).account? id =
      ((database.account? id).map tx.version).or
        (tx.createdAccounts.find? fun account => account.id == id) := by
  have same : ((fun account : Account => account.id == id) ∘ tx.version) =
      fun account => account.id == id := by
    funext account
    simp [keeps.version account]
  simp only [Database.account?, applyTo, List.find?_append, List.find?_map, same]

theorem version_of_unwritten {account : Account} (unwritten : tx.accounts account.id = none) :
    tx.version account = account := by
  simp [version, unwritten]

theorem KeepsIds.account?_unwritten (keeps : tx.KeepsIds) {id : Uuid} {account : Account}
    (unwritten : tx.accounts id = none) (found : database.account? id = some account) :
    (tx.applyTo database).account? id = some account := by
  have same := Database.account?_id found
  rw [keeps.account?_applyTo, found, Option.map_some, Option.some_or,
    version_of_unwritten (same ▸ unwritten)]

/-! ## Transactions side by side -/

structure Apart (tx other : Tx) : Prop where
  rows : ∀ id, (tx.accounts id).isSome → other.accounts id = none
  differ : ∀ row ∈ tx.transactions, ∀ otherRow ∈ other.transactions, row.Differs otherRow

theorem Apart.symm {other : Tx} (apart : tx.Apart other) : other.Apart tx where
  rows id locked := by
    cases written : tx.accounts id with
    | none => rfl
    | some version =>
        have unwritten := apart.rows id (by simp [written])
        simp [unwritten] at locked
  differ otherRow otherMember row member := (apart.differ row member otherRow otherMember).symm

end Tx

namespace Server

variable {Thread : Type}

/-- What an open transaction of a thread may contain. -/
structure Pending (server : Server Thread) (thread : Thread) (tx : Tx) : Prop where
  keepsIds : tx.KeepsIds
  apart : ∀ other otherTx, other ≠ thread → server.open_ other = some otherTx →
    tx.Apart otherTx
  fresh : ∀ row ∈ tx.transactions, ∀ committed ∈ server.database.transactions,
    row.Differs committed

theorem pending_of_empty {server : Server Thread} {thread : Thread} {tx : Tx}
    (rows : tx.accounts = fun _ => none) (keys : tx.transactions = []) :
    server.Pending thread tx where
  keepsIds id account written := by simp [rows] at written
  apart _ _ _ _ := ⟨fun id locked => by simp [rows] at locked, fun _ member => by simp [keys] at member⟩
  fresh _ member := by simp [keys] at member

theorem Pending.mono {server : Server Thread} {thread : Thread} {tx following : Tx}
    (pending : server.Pending thread tx) (rows : following.accounts = tx.accounts)
    (kept : ∀ row ∈ following.transactions, ∃ old ∈ tx.transactions,
      row.key = old.key ∧ row.id = old.id) : server.Pending thread following where
  keepsIds id account written := pending.keepsIds id account (rows ▸ written)
  apart other otherTx different opened := by
    have apart := pending.apart other otherTx different opened
    refine ⟨fun id locked => apart.rows id (rows ▸ locked), ?_⟩
    intro row member otherRow otherMember
    rcases kept row member with ⟨old, oldMember, key, id⟩
    have differs := apart.differ old oldMember otherRow otherMember
    exact ⟨key ▸ differs.key, id ▸ differs.id⟩
  fresh row member committed committedMember := by
    rcases kept row member with ⟨old, oldMember, key, id⟩
    have differs := pending.fresh old oldMember committed committedMember
    exact ⟨key ▸ differs.key, id ▸ differs.id⟩

/-- A row that no other transaction holds may be written. -/
theorem Pending.writeAccount {server : Server Thread} {thread : Thread} {tx : Tx}
    (pending : server.Pending thread tx) {account : Account}
    (free : ∀ other otherTx, other ≠ thread → server.open_ other = some otherTx →
      otherTx.accounts account.id = none) : server.Pending thread (tx.writeAccount account) where
  keepsIds id version written := by
    by_cases same : id = account.id
    · subst same
      simp only [Tx.writeAccount, Function.update_self] at written
      cases written
      rfl
    · simp only [Tx.writeAccount, Function.update_of_ne same] at written
      exact pending.keepsIds id version written
  apart other otherTx different opened := by
    refine ⟨?_, (pending.apart other otherTx different opened).differ⟩
    intro id locked
    by_cases same : id = account.id
    · exact same ▸ free other otherTx different opened
    · simp only [Tx.writeAccount, Function.update_of_ne same] at locked
      exact (pending.apart other otherTx different opened).rows id locked
  fresh := pending.fresh

/-- A row that differs from those of other transactions and the committed ones may be
inserted. -/
theorem Pending.insertTransaction {server : Server Thread} {thread : Thread} {tx : Tx}
    (pending : server.Pending thread tx) {row : Transaction}
    (others : ∀ other otherTx, other ≠ thread → server.open_ other = some otherTx →
      ∀ otherRow ∈ otherTx.transactions, row.Differs otherRow)
    (committed : ∀ committed ∈ server.database.transactions, row.Differs committed) :
    server.Pending thread (tx.insertTransaction row) where
  keepsIds := pending.keepsIds
  apart other otherTx different opened := by
    refine ⟨(pending.apart other otherTx different opened).rows, ?_⟩
    intro inserted member otherRow otherMember
    rcases List.mem_append.mp member with old | new
    · exact (pending.apart other otherTx different opened).differ inserted old otherRow otherMember
    · rcases List.mem_singleton.mp new with rfl
      exact others other otherTx different opened otherRow otherMember
  fresh inserted member := by
    rcases List.mem_append.mp member with old | new
    · exact pending.fresh inserted old
    · rcases List.mem_singleton.mp new with rfl
      exact committed

def AllPending (server : Server Thread) : Prop :=
  ∀ thread tx, server.open_ thread = some tx → server.Pending thread tx

section Steps

variable {server : Server Thread} {thread : Thread}

theorem visible_open {tx : Tx} (opened : server.open_ thread = some tx) (id : Uuid) :
    server.visible thread id = (server.database.account? id).map tx.version := by
  simp [visible, opened]

theorem visible_closed (closed : server.open_ thread = none) (id : Uuid) :
    server.visible thread id = server.database.account? id := by
  simp [visible, closed]

theorem heldByOther_false {test : Tx → Bool} (free : ¬server.HeldByOther thread test)
    {other : Thread} {tx : Tx} (different : other ≠ thread)
    (opened : server.open_ other = some tx) : test tx = false := by
  by_contra held
  exact free ⟨other, different, by simpa [opened] using held⟩

variable [DecidableEq Thread]

@[simp] theorem setOpen_open (tx : Option Tx) : (server.setOpen thread tx).open_ thread = tx :=
  Function.update_self _ _ _

theorem setOpen_other {other : Thread} (different : other ≠ thread) (tx : Option Tx) :
    (server.setOpen thread tx).open_ other = server.open_ other :=
  Function.update_of_ne different _ _

@[simp] theorem setOpen_database (tx : Option Tx) :
    (server.setOpen thread tx).database = server.database := rfl

@[simp] theorem setOpen_log (tx : Option Tx) : (server.setOpen thread tx).log = server.log := rfl

@[simp] theorem commitTx_open (tx : Tx) : (server.commitTx thread tx).open_ thread = none :=
  Function.update_self _ _ _

theorem commitTx_other {other : Thread} (different : other ≠ thread) (tx : Tx) :
    (server.commitTx thread tx).open_ other = server.open_ other :=
  Function.update_of_ne different _ _

@[simp] theorem commitTx_database (tx : Tx) :
    (server.commitTx thread tx).database = tx.applyTo server.database := rfl

@[simp] theorem commitTx_log (tx : Tx) :
    (server.commitTx thread tx).log = server.log ++ [⟨thread, tx⟩] := rfl

theorem AllPending.setOpen (all : server.AllPending) {tx : Option Tx}
    (pending : ∀ current, tx = some current → server.Pending thread current) :
    (server.setOpen thread tx).AllPending := by
  intro other otherTx opened
  by_cases same : other = thread
  · subst same
    rw [setOpen_open] at opened
    have own := pending otherTx opened
    refine ⟨own.keepsIds, ?_, own.fresh⟩
    intro third thirdTx different thirdOpened
    exact own.apart third thirdTx different (by rwa [setOpen_other different] at thirdOpened)
  · rw [setOpen_other same] at opened
    have kept := all other otherTx opened
    refine ⟨kept.keepsIds, ?_, kept.fresh⟩
    intro third thirdTx different thirdOpened
    by_cases own : third = thread
    · subst own
      rw [setOpen_open] at thirdOpened
      exact ((pending thirdTx thirdOpened).apart other otherTx same opened).symm
    · exact kept.apart third thirdTx different (by rwa [setOpen_other own] at thirdOpened)

theorem AllPending.commitTx (all : server.AllPending) {tx : Tx}
    (pending : server.Pending thread tx) : (server.commitTx thread tx).AllPending := by
  intro other otherTx opened
  by_cases same : other = thread
  · subst same
    rw [commitTx_open] at opened
    cases opened
  · rw [commitTx_other same] at opened
    have kept := all other otherTx opened
    refine ⟨kept.keepsIds, ?_, ?_⟩
    · intro third thirdTx different thirdOpened
      by_cases own : third = thread
      · subst own
        rw [commitTx_open] at thirdOpened
        cases thirdOpened
      · exact kept.apart third thirdTx different (by rwa [commitTx_other own] at thirdOpened)
    · intro row member committed committedMember
      rcases List.mem_append.mp committedMember with old | new
      · exact kept.fresh row member committed old
      · exact ((pending.apart other otherTx same opened).differ committed new row member).symm

theorem write_open {tx : Tx} (opened : server.open_ thread = some tx) (change : Tx → Tx) :
    server.write thread change = server.setOpen thread (some (change tx)) := by
  simp [write, opened]

theorem write_closed (closed : server.open_ thread = none) (change : Tx → Tx) :
    server.write thread change = server.commitTx thread (change .empty) := by
  simp [write, closed]

/-! ## Statements that write -/

variable [Fintype Thread]

theorem updateAccount_updated {id : Uuid} {filter : AccountFilter} {data : AccountUpdate}
    {after : Server Thread}
    (updated : server.updateAccount thread id filter data = .updated after) :
    ∃ account written, server.visible thread id = some account ∧
      filter.admits account = true ∧ data.apply account = some written ∧
      (∀ other tx, other ≠ thread → server.open_ other = some tx → tx.accounts id = none) ∧
      after = server.write thread (·.writeAccount written) := by
  unfold updateAccount at updated
  split at updated
  · split at updated
    · split at updated <;> cases updated
    · cases updated
  · rename_i free
    split at updated
    · cases updated
    · rename_i account visible
      split at updated
      · rename_i admitted
        split at updated
        · rename_i written applied
          cases updated
          refine ⟨account, written, visible, admitted, applied, ?_, rfl⟩
          intro other tx different opened
          simpa using heldByOther_false free different opened
        · cases updated
      · cases updated

omit [DecidableEq Thread] in
theorem idInUse_open {id : Uuid} {tx : Tx} (opened : server.open_ thread = some tx)
    {row : Transaction} (member : row ∈ tx.transactions) (same : row.id = id) :
    server.idInUse id = true := by
  have held : ∃ thread, (server.open_ thread).any
      (fun tx => tx.transactions.any fun transaction => transaction.id == id) = true :=
    ⟨thread, by
      rw [opened, Option.any_some]
      exact List.any_eq_true.mpr ⟨row, member, by simp [same]⟩⟩
  rw [idInUse, decide_eq_true held, Bool.or_true]

omit [DecidableEq Thread] in
theorem idInUse_committed {id : Uuid} {row : Transaction}
    (member : row ∈ server.database.transactions) (same : row.id = id) :
    server.idInUse id = true := by
  rw [idInUse, Bool.or_eq_true]
  exact .inl (List.any_eq_true.mpr ⟨row, member, by simp [same]⟩)

theorem insertTransaction_cases {data : TransactionData} {id : Uuid} {now : ℕ}
    {answer : Except DatabaseError Transaction} {after : Server Thread}
    (inserted : server.insertTransaction thread data id now = some (answer, after)) :
    (∃ error, answer = .error error ∧ after = server) ∨
    ∃ row, answer = .ok row ∧ data.row id now = .ok row ∧
      (∀ other tx, other ≠ thread → server.open_ other = some tx →
        ∀ otherRow ∈ tx.transactions, row.Differs otherRow) ∧
      (∀ committed ∈ server.database.transactions, row.Differs committed) ∧
      after = server.write thread (·.insertTransaction row) := by
  unfold insertTransaction at inserted
  split at inserted
  · rename_i error invalid
    cases inserted
    exact .inl ⟨error, rfl, rfl⟩
  · rename_i row valid
    split at inserted
    · cases inserted
    · rename_i unusedId
      split at inserted
      · cases inserted
      · rename_i free
        split at inserted
        · cases inserted
          exact .inl ⟨_, rfl, rfl⟩
        · rename_i unused
          split at inserted
          · cases inserted
            have sameId := TransactionData.row_id valid
            refine .inr ⟨row, rfl, valid, ?_, ?_, rfl⟩
            · intro other tx different opened otherRow member
              refine ⟨fun equal => ?_, fun equal => unusedId ?_⟩
              · have notHeld := heldByOther_false free different opened
                have held : tx.holdsKey row.key = true :=
                  List.any_eq_true.mpr ⟨otherRow, member, by simp [equal]⟩
                exact absurd held (by simp [notHeld])
              · exact idInUse_open opened member (equal.symm.trans sameId)
            · intro committed member
              refine ⟨fun equal => unused ?_, fun equal => unusedId ?_⟩
              · rw [Bool.or_eq_true]
                exact .inl (List.any_eq_true.mpr ⟨committed, member, by simp [equal]⟩)
              · exact idInUse_committed member (equal.symm.trans sameId)
          · cases inserted
            exact .inl ⟨_, rfl, rfl⟩

/-- The accounts of an inserted row are visible to its transaction. -/
theorem insertTransaction_referenced {data : TransactionData} {id : Uuid} {now : ℕ}
    {row : Transaction} {after : Server Thread}
    (inserted : server.insertTransaction thread data id now = some (.ok row, after)) :
    server.referenced thread row.fromAccountId = true ∧
      server.referenced thread row.toAccountId = true := by
  unfold insertTransaction at inserted
  split at inserted
  · cases inserted
  · split at inserted
    · cases inserted
    · split at inserted
      · cases inserted
      · split at inserted
        · cases inserted
        · split at inserted
          · rename_i referenced
            cases inserted
            exact Bool.and_eq_true_iff.mp referenced
          · cases inserted

end Steps

end Server

end BankingBackend.Postgres
