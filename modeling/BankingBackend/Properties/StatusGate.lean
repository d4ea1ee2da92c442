import BankingBackend.Properties.Balances

/-! # The account status gate

A money call reads the status of its accounts and moves the balances later, in
the same transaction but without a lock on what it read. What it read is still
the committed status when it commits, unless another call freezes or closes the
account in between.
-/

namespace BankingBackend

open Foundation Postgres Redis Common Fraud Transactions Accounts

def IsActive (database : Database) (id : Uuid) : Prop :=
  ∃ account ∈ database.account? id, account.status = .active

instance (database : Database) (id : Uuid) : Decidable (IsActive database id) :=
  inferInstanceAs (Decidable (∃ account ∈ database.account? id, account.status = .active))

section Definitions

variable {Thread : Type} [DecidableEq Thread] [Fintype Thread]

/-- The step freezes or closes no account that an open transaction has read as
ACTIVE. -/
def Undisturbed (current : Configuration Thread) (label : Label Thread) : Prop :=
  ∀ following ∈ step current label, ∀ thread, ∀ tx ∈ current.shared.server.open_ thread,
    ∀ account ∈ tx.reads, account.status = .active →
      IsActive current.shared.server.database account.id →
      IsActive following.shared.server.database account.id

instance (current : Configuration Thread) (label : Label Thread) :
    Decidable (Undisturbed current label) :=
  inferInstanceAs (Decidable (∀ following ∈ step current label, ∀ thread,
    ∀ tx ∈ current.shared.server.open_ thread, ∀ account ∈ tx.reads, account.status = .active →
      IsActive current.shared.server.database account.id →
      IsActive following.shared.server.database account.id))

structure Gated (current : Configuration Thread) : Prop where
  /-- A balance changes at an account whose committed status is ACTIVE. -/
  updates : ∀ label following, step current label = some following → ∀ id account,
    current.shared.server.database.account? id = some account →
    following.shared.server.database.cents id ≠ account.balance.cents →
    account.status = .active
  /-- The committed row of an account stays as it is from the update of its balance to
  the end of the transaction. -/
  locked : ∀ label following, step current label = some following → ∀ thread tx id account,
    current.shared.server.open_ thread = some tx → (tx.accounts id).isSome →
    current.shared.server.database.account? id = some account →
    following.shared.server.open_ thread = none ∨
      following.shared.server.database.account? id = some account
  closed : ∀ account ∈ current.shared.server.database.accounts,
    account.status = .closed → account.balance.cents = 0

end Definitions

/-! ## Steps -/

section Steps

variable {Thread : Type} [DecidableEq Thread] {requests : Thread → Request}
  {thread other : Thread} {before after : Server Thread}

theorem Effect.reads (effect : Effect (requests thread) thread before after) {tx : Tx}
    (opened : after.open_ other = some tx) {account : Account} (read : account ∈ tx.reads) :
    (∃ old, before.open_ other = some old ∧ account ∈ old.reads) ∨
      after.database.account? account.id = some account := by
  cases effect with
  | unchanged => exact .inl ⟨tx, opened, read⟩
  | works working pending reads =>
      by_cases same : other = thread
      · subst same
        rw [Server.setOpen_open] at opened
        exact reads tx opened account read
      · rw [Server.setOpen_other same] at opened
        exact .inl ⟨tx, opened, read⟩
  | commits committed =>
      by_cases same : other = thread
      · subst same
        rw [Server.commitTx_open] at opened
        cases opened
      · rw [Server.commitTx_other same] at opened
        exact .inl ⟨tx, opened, read⟩

/-- A call moves money only at accounts its transaction has read as ACTIVE. -/
theorem Effect.read_active (effect : Effect (requests thread) thread before after) {id : Uuid}
    (moved : after.database.cents id ≠ before.database.cents id) :
    ∃ tx, before.open_ thread = some tx ∧
      ∃ account ∈ tx.reads, account.id = id ∧ account.status = .active := by
  cases effect with
  | unchanged => exact absurd rfl moved
  | works => exact absurd rfl moved
  | commits tx pending committable own =>
      rcases committable.moves pending.keepsIds with ⟨same, _⟩ | ⟨params, row, posts, cents⟩
      · exact absurd (same id) moved
      · have affected : (Record.mk row params.amount).entry.effect id ≠ 0 := by
          intro zero
          apply moved
          rw [Server.commitTx_database, cents id, zero, add_zero]
        refine ⟨tx, ?_, posts.parties id (Ledger.party_of_effect affected)⟩
        rcases own with opened | empty
        · exact opened
        · rw [posts.transactions] at empty
          cases empty

theorem Effect.closed (effect : Effect (requests thread) thread before after)
    (invariant : Invariant requests before) {id : Uuid} {account : Account}
    (found : after.database.account? id = some account) (closed : account.status = .closed) :
    (∃ old, before.database.account? id = some old ∧ old.status = .closed) ∨
      account.balance.cents = 0 := by
  have held : (ledgerOf requests after).holdings id = some (holdingOf account) := by
    simp [ledgerOf, found]
  have before_or_empty : (∃ old, (ledgerOf requests before).holdings id = some old ∧
      old.status = .closed) ∨ account.balance.cents = 0 := by
    rcases effect.ledger invariant with same | step
    · exact .inl ⟨holdingOf account, by rw [← same, held], closed⟩
    · exact step.closed held closed
  rcases before_or_empty with ⟨holding, oldHeld, oldClosed⟩ | empty
  · rcases Option.map_eq_some_iff.mp oldHeld with ⟨old, oldFound, rfl⟩
    exact .inl ⟨old, oldFound, oldClosed⟩
  · exact .inr empty

end Steps

/-! ## Undisturbed runs -/

section Runs

variable {Thread : Type} [DecidableEq Thread] [Fintype Thread]
  {config : FraudConfig} {requests : Thread → Request} {redis : Store} {now : ℕ}
  {current following : Configuration Thread}

/-- What an open transaction has read as ACTIVE still is, and closed accounts are
empty. -/
structure ReadsCurrent (server : Server Thread) : Prop where
  reads : ∀ thread tx, server.open_ thread = some tx → ∀ account ∈ tx.reads,
    account.status = .active → IsActive server.database account.id
  closed : ∀ id account, server.database.account? id = some account →
    account.status = .closed → account.balance.cents = 0

omit [DecidableEq Thread] [Fintype Thread] in
theorem readsCurrent_initial : ReadsCurrent (.initial : Server Thread) where
  reads _ _ opened := by cases opened
  closed _ _ found := by cases found

theorem cents_of_found {database : Database} {id : Uuid} {account : Account}
    (found : database.account? id = some account) : database.cents id = account.balance.cents := by
  simp [Database.cents, found]

omit [Fintype Thread] in
theorem ReadsCurrent.active {thread : Thread} {before after : Server Thread}
    (readsCurrent : ReadsCurrent before)
    (effect : Effect (requests thread) thread before after) {id : Uuid} {account : Account}
    (found : before.database.account? id = some account)
    (moved : after.database.cents id ≠ account.balance.cents) : account.status = .active := by
  rcases effect.read_active (cents_of_found found ▸ moved) with
    ⟨tx, opened, read, readMember, rfl, readActive⟩
  rcases readsCurrent.reads thread tx opened read readMember readActive with
    ⟨committed, isCommitted, active⟩
  cases found.symm.trans isCommitted
  exact active

theorem ReadsCurrent.step {label : Label Thread}
    (readsCurrent : ReadsCurrent current.shared.server)
    (reachable : Reachable config requests current) (undisturbed : Undisturbed current label)
    (taken : BankingBackend.step current label = some following) :
    ReadsCurrent following.shared.server := by
  rcases reachable.step_cases taken with same | ⟨thread, choice, _, effect⟩
  · rwa [same]
  · constructor
    · intro other tx opened account read active
      rcases effect.reads opened read with ⟨old, oldOpened, oldRead⟩ | committed
      · exact undisturbed following taken other old oldOpened account oldRead active
          (readsCurrent.reads other old oldOpened account oldRead active)
      · exact ⟨account, committed, active⟩
    · intro id account found closed
      rcases effect.closed reachable.invariant found closed with ⟨old, oldFound, oldClosed⟩ | empty
      · have oldEmpty := readsCurrent.closed id old oldFound oldClosed
        by_contra filled
        have moved : following.shared.server.database.cents id ≠ old.balance.cents := by
          rwa [cents_of_found found, oldEmpty]
        have active := readsCurrent.active effect oldFound moved
        rw [oldClosed] at active
        cases active
      · exact empty

theorem readsCurrent (run : Run step Undisturbed (initial config requests redis now) current) :
    Reachable config requests current ∧ ReadsCurrent current.shared.server := by
  refine run.invariant
    (fun between => Reachable config requests between ∧ ReadsCurrent between.shared.server)
    ⟨⟨redis, now, .start⟩, readsCurrent_initial⟩ ?_
  rintro between label next ⟨reachable, holds⟩ undisturbed taken
  exact ⟨reachable.next taken, holds.step reachable undisturbed taken⟩

theorem Reachable.locked {label : Label Thread} (reachable : Reachable config requests current)
    (taken : step current label = some following) {thread : Thread} {tx : Tx} {id : Uuid}
    {account : Account} (opened : current.shared.server.open_ thread = some tx)
    (written : (tx.accounts id).isSome)
    (found : current.shared.server.database.account? id = some account) :
    following.shared.server.open_ thread = none ∨
      following.shared.server.database.account? id = some account := by
  rcases reachable.step_cases taken with same | ⟨other, choice, _, effect⟩
  · exact .inr (by rwa [same])
  · by_cases own : thread = other
    · subst own
      generalize following.shared.server = after at effect
      cases effect with
      | unchanged => exact .inr found
      | works => exact .inr found
      | commits => exact .inl (Server.commitTx_open _)
    · exact .inr ((effect.rely reachable.invariant own).locked tx id account opened written found)

/-- As long as no account is frozen or closed between the status check of a money
call and its commit, status gates money. -/
theorem status_gates_money
    (run : Run step Undisturbed (initial config requests redis now) current) :
    Gated current := by
  rcases readsCurrent run with ⟨reachable, holds⟩
  refine ⟨?_, ?_, ?_⟩
  · intro label following taken id account found moved
    rcases reachable.step_cases taken with same | ⟨thread, choice, _, effect⟩
    · rw [same, cents_of_found found] at moved
      exact absurd rfl moved
    · exact holds.active effect found moved
  · intro label following taken thread tx id account opened written found
    exact reachable.locked taken opened written found
  · intro account member
    exact holds.closed account.id account
      (Database.account?_of_mem reachable.invariant.accountIds member)

end Runs

/-! ### Closing an account during a deposit -/

/-- A deposit, and the closing of its account. -/
def closingRequests : Fin 3 → Request
  | 0 => { userId := ⟨7⟩, operation := .createAccount ⟨.USD⟩ }
  | 1 => { userId := ⟨7⟩, operation := sampleDeposit }
  | 2 => { userId := ⟨7⟩, operation := .closeAccount sampleText }

/-- The account is closed after the deposit has read it and before it adds to its
balance. -/
def closingRun : List (Label (Fin 3)) :=
  [act 0, act 0 sampleId, act 0] ++ List.replicate 3 (act 1) ++ [act 2] ++
    List.replicate 5 (act 1 1)

private theorem closing_leads : leadsTo {} closingRequests closingRun (fun current =>
    current.shared.server.database.accounts.any fun account =>
      account.status == .closed && account.balance.cents == 500) = true := by decide +kernel

theorem closing_keeps_balance : ∃ current, Reachable {} closingRequests current ∧
    ∃ account ∈ current.shared.server.database.accounts,
      account.status = .closed ∧ account.balance.cents = 500 := by
  rcases exists_reachable closing_leads with ⟨current, reachable, passed⟩
  rcases List.any_eq_true.mp passed with ⟨account, member, same⟩
  simp only [Bool.and_eq_true, beq_iff_eq] at same
  exact ⟨current, reachable, account, member, same⟩

def sampleWithdraw : Operation :=
  .createWithdraw
    ((CreateWithdrawRequestDto.validate 5 "withdraw" sampleText).get (by decide +kernel))

/-- A deposit, the withdrawal of all of it, and the closing of its account. -/
def emptyingRequests : Fin 4 → Request
  | 0 => { userId := ⟨7⟩, operation := .createAccount ⟨.USD⟩ }
  | 1 => { userId := ⟨7⟩, operation := sampleDeposit }
  | 2 => { userId := ⟨7⟩, operation := sampleWithdraw }
  | 3 => { userId := ⟨7⟩, operation := .closeAccount sampleText }

def emptyingRun : List (Label (Fin 4)) :=
  [act 0, act 0 sampleId, act 0] ++ List.replicate 8 (act 1) ++ List.replicate 10 (act 2 1) ++
    [act 3]

private theorem emptying_leads :
    (execute step (fun current label => decide (Undisturbed current label))
      (initial {} emptyingRequests .empty 0) emptyingRun).any (fun current =>
        current.shared.server.database.transactions.length == 2 &&
          current.shared.server.database.accounts.all (·.status == .closed)) = true := by
  decide +kernel

theorem status_gates_money_emptying : ∃ current,
    Run step Undisturbed (initial {} emptyingRequests .empty 0) current ∧
      current.shared.server.database.transactions.length = 2 ∧
      (∀ account ∈ current.shared.server.database.accounts, account.status = .closed) ∧
      Gated current := by
  rcases exists_run_of_execute step _ Undisturbed (fun _ _ checked => of_decide_eq_true checked)
    emptying_leads with ⟨current, run, passed⟩
  simp only [Bool.and_eq_true, beq_iff_eq, List.all_eq_true] at passed
  exact ⟨current, run, passed.1, passed.2, status_gates_money run⟩

end BankingBackend
